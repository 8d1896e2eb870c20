import QueryTariff.Json
import QueryTariff.Log

/-!
Values for the variables of an operation. Only integers matter to an estimate, so a variable bound
to anything else is as good as unbound.
-/

namespace QueryTariff

/-- Integers for variables. -/
abbrev Bindings := NameMap Int

namespace Bindings

/-- The members of an object that are integers; any other value binds nothing. -/
def ofJson (j : Json) : Bindings :=
  NameMap.ofList (j.members.sorted.filterMap fun (x, v) => v.toSigned?.map (x, ·))

def ignored (x : String) : Record :=
  ⟨.trace, "Ignoring non-integer value bound to variable `$" ++ x ++ "`."⟩

/-- One record for each member that is left out. -/
def ofJsonNotes (j : Json) : List Record :=
  j.members.sorted.filterMap fun (x, v) =>
    match v.toSigned? with
    | some _ => none
    | none => some (ignored x)

end Bindings

end QueryTariff
