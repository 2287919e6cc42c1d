import ValuedGraph.Number.Decimal

/-!
# Traced computations

A log expression leaves an entry behind, whether or not the computation around it succeeds.
A `Traced` computation is a result together with the entries that were left on the way to it.

* `Traced.result_bind`: the entries have no influence on the result.
* `Traced.log_bind`: a computation that fails ends the entries.
-/

namespace ValuedGraph

/-- **An entry of the log:** an array and what the author calls it. -/
structure LogEntry where
  label : String
  values : List Float
  deriving DecidableEq, Repr

/-- The line of an entry. -/
def LogEntry.text (e : LogEntry) : String :=
  (if e.label = "" then "" else e.label ++ ": ") ++ fullTexts e.values

/-- **A result and the entries logged on the way to it.** -/
structure Traced (ε α : Type) where
  log : List LogEntry
  result : Except ε α

namespace Traced

variable {ε α β : Type}

/-- A result that leaves no entries. -/
def ofExcept (r : Except ε α) : Traced ε α := ⟨[], r⟩

/-- Leaves an entry. -/
def tell (e : LogEntry) : Traced ε Unit := ⟨[e], .ok ()⟩

/-- A failure. -/
def fail (e : ε) : Traced ε α := ⟨[], .error e⟩

/-- Names a failure in another way. -/
def mapError {ε' : Type} (f : ε → ε') (x : Traced ε α) : Traced ε' α :=
  ⟨x.log, x.result.mapError f⟩

/-- Goes on with the value of a computation, if it has one. -/
protected def bind (x : Traced ε α) (f : α → Traced ε β) : Traced ε β :=
  match x.result with
  | .ok a => ⟨x.log ++ (f a).log, (f a).result⟩
  | .error e => ⟨x.log, .error e⟩

instance : Monad (Traced ε) where
  pure a := ⟨[], .ok a⟩
  bind := Traced.bind

instance : MonadExcept ε (Traced ε) where
  throw := fail
  tryCatch x handle :=
    match x.result with
    | .ok _ => x
    | .error e => ⟨x.log ++ (handle e).log, (handle e).result⟩

instance : LawfulMonad (Traced ε) := LawfulMonad.mk' _
  (fun x => by obtain ⟨log, r⟩ := x; cases r <;> simp [Functor.map, Traced.bind])
  (fun a f => by simp [Bind.bind, Traced.bind, Pure.pure])
  (fun x f g => by
    obtain ⟨log, r⟩ := x
    cases r with
    | error e => rfl
    | ok a => cases h : (f a).result <;> simp [Bind.bind, Traced.bind, h])

@[simp] theorem result_pure (a : α) : (pure a : Traced ε α).result = .ok a := rfl

@[simp] theorem log_pure (a : α) : (pure a : Traced ε α).log = [] := rfl

/-- **The log has no influence on the result.** -/
@[simp] theorem result_bind (x : Traced ε α) (f : α → Traced ε β) :
    (x >>= f).result = x.result.bind fun a => (f a).result := by
  change (Traced.bind x f).result = _
  unfold Traced.bind
  cases x.result <;> rfl

/-- **The log of a sequence** is the first log, then the second one if there is a second. -/
theorem log_bind (x : Traced ε α) (f : α → Traced ε β) :
    (x >>= f).log = x.log ++ match x.result with
      | .ok a => (f a).log
      | .error _ => [] := by
  change (Traced.bind x f).log = _
  unfold Traced.bind
  cases x.result <;> simp

end Traced

end ValuedGraph
