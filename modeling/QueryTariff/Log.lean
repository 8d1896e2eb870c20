import QueryTariff.Text.Terminal

/-!
Log records and computations that leave some behind.

A computation that may stop early keeps the records it made up to the stop. What it answers never
depends on the records: `result_bind` reads the answer off without them.
-/

namespace QueryTariff

/-- The detail of a record, the finest first. -/
inductive Level where
  | trace
  | debug
  | info
  | warn
deriving DecidableEq, Repr

namespace Level

def label : Level → String
  | trace => "TRACE"
  | debug => "DEBUG"
  | info => "INFO"
  | warn => "WARN"

def rank : Level → Nat
  | trace => 0
  | debug => 1
  | info => 2
  | warn => 3

/-- Whether a record of level `l` is written when `threshold` is the finest level wanted. -/
def shows (threshold l : Level) : Bool := threshold.rank ≤ l.rank

end Level

structure Record where
  level : Level
  text : String
deriving DecidableEq, Repr

namespace Record

/-- The record as it is kept: its level and its text. -/
def line (r : Record) : String := r.level.label ++ " " ++ r.text

/-- The record as it is sent to a terminal. -/
def terminalLine (r : Record) : String := r.level.label ++ " " ++ Text.shown r.text

end Record

/-- An answer, or the reason there is none, with the records made on the way. -/
structure Logged (ε α : Type) where
  log : List Record
  result : Except ε α

namespace Logged

variable {ε δ α β : Type}

/-- Runs `x` and then `f` on its answer; a reason to stop in `x` ends the whole. -/
def andThen (x : Logged ε α) (f : α → Logged ε β) : Logged ε β :=
  match x.result with
  | .ok a =>
    match f a with
    | ⟨log, result⟩ => ⟨x.log ++ log, result⟩
  | .error e => ⟨x.log, .error e⟩

instance : Monad (Logged ε) where
  pure a := ⟨[], .ok a⟩
  bind := andThen

/-- Stops for the reason `e`. -/
def stop (e : ε) : Logged ε α := ⟨[], .error e⟩

/-- Leaves the records `rs`. -/
def tell (rs : List Record) : Logged ε Unit := ⟨rs, .ok ()⟩

def trace (text : String) : Logged ε Unit := tell [⟨.trace, text⟩]

def debug (text : String) : Logged ε Unit := tell [⟨.debug, text⟩]

/-- A computation that leaves no records. -/
def silent (x : Except ε α) : Logged ε α := ⟨[], x⟩

/-- The same computation, its reason to stop told in other words. -/
def mapError (g : ε → δ) (x : Logged ε α) : Logged δ α := ⟨x.log, x.result.mapError g⟩

@[simp] theorem result_pure (a : α) : (pure a : Logged ε α).result = .ok a := rfl

@[simp] theorem result_bind (x : Logged ε α) (f : α → Logged ε β) :
    (x >>= f).result = x.result >>= fun a => (f a).result := by
  show (andThen x f).result = _
  unfold andThen
  cases x.result <;> rfl

@[simp] theorem result_map (x : Logged ε α) (f : α → β) :
    (f <$> x).result = f <$> x.result := by
  show (andThen x _).result = _
  unfold andThen
  cases x.result <;> rfl

@[simp] theorem result_stop (e : ε) : (stop e : Logged ε α).result = .error e := rfl

@[simp] theorem result_tell (rs : List Record) : (tell rs : Logged ε Unit).result = .ok () := rfl

@[simp] theorem result_trace (t : String) : (trace t : Logged ε Unit).result = .ok () := rfl

@[simp] theorem result_debug (t : String) : (debug t : Logged ε Unit).result = .ok () := rfl

@[simp] theorem result_silent (x : Except ε α) : (silent x).result = x := rfl

@[simp] theorem result_mapError (g : ε → δ) (x : Logged ε α) :
    (mapError g x).result = x.result.mapError g := rfl

@[simp] theorem ok_bind (a : α) (f : α → Except ε β) : (Except.ok a >>= f) = f a := rfl

@[simp] theorem error_bind (e : ε) (f : α → Except ε β) : (Except.error e >>= f) = .error e := rfl

theorem toOption_eq_some_iff {x : Except ε α} {a : α} : x.toOption = some a ↔ x = .ok a := by
  cases x <;> simp [Except.toOption]

/-- Leaving records first makes no difference to the answer. -/
theorem result_tell_bind (rs : List Record) (f : Unit → Logged ε β) :
    (tell rs >>= f).result = (f ()).result := by simp

/-- A sequence succeeds exactly if both of its parts do. -/
theorem result_bind_eq_ok {x : Logged ε α} {f : α → Logged ε β} {b : β} :
    (x >>= f).result = .ok b ↔ ∃ a, x.result = .ok a ∧ (f a).result = .ok b := by
  rw [result_bind]
  cases x.result <;> simp

theorem result_mapError_eq_ok {g : ε → δ} {x : Logged ε α} {a : α} :
    (mapError g x).result = .ok a ↔ x.result = .ok a := by
  rw [result_mapError]
  cases x.result with
  | ok b =>
    show (.ok b : Except δ α) = .ok a ↔ (.ok b : Except ε α) = .ok a
    simp
  | error e =>
    show (.error (g e) : Except δ α) = .ok a ↔ (.error e : Except ε α) = .ok a
    simp

end Logged

end QueryTariff
