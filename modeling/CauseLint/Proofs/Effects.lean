import CauseLint.Log

/-!
# What computations yield

Computations here carry two states: a log on top of what an oracle remembers, or suppressions on top
of a log. What holds of the value of such a computation, whatever the states are when it starts, is
carried from its parts to the whole.

A computation with the log alone is treated alike; it gives up as soon as one of its parts does.

Results:

* `Yields.bind`: what the first part yields goes into the second.
* `Gives.andThen`: what the first part gives goes into the second, unless it gave up.
-/

namespace CauseLint

variable {σ τ α β : Type}

/-- What holds of the value of a computation, whatever states it starts with. -/
def Yields (x : StateT σ (StateM τ) α) (p : α → Prop) : Prop :=
  ∀ s t, p ((x.run s).run t).1.1

namespace Yields

theorem pure {p : α → Prop} {a : α} (h : p a) :
    Yields (pure a : StateT σ (StateM τ) α) p := fun _ _ => h

theorem bind {x : StateT σ (StateM τ) α} {f : α → StateT σ (StateM τ) β} {p : α → Prop}
    {q : β → Prop} (hx : Yields x p) (hf : ∀ a, p a → Yields (f a) q) : Yields (x >>= f) q :=
  fun s t => hf _ (hx s t) _ _

/-- Only what the first part can yield goes into the second. -/
theorem bind_congr {x : StateT σ (StateM τ) α} {f g : α → StateT σ (StateM τ) β} {p : α → Prop}
    (hx : Yields x p) (h : ∀ a, p a → f a = g a) : x >>= f = x >>= g := by
  funext s t
  show ((f ((x.run s).run t).1.1).run _).run _ = ((g ((x.run s).run t).1.1).run _).run _
  rw [h _ (hx s t)]

theorem trivial (x : StateT σ (StateM τ) α) : Yields x fun _ => True := fun _ _ => True.intro

theorem imp {x : StateT σ (StateM τ) α} {p q : α → Prop} (hx : Yields x p)
    (h : ∀ a, p a → q a) : Yields x q := fun s t => h _ (hx s t)

/-- A computation that leaves the upper state alone yields what it comes to from some lower one. -/
theorem lift (x : StateM τ α) :
    Yields (liftM x : StateT σ (StateM τ) α) fun a => ∃ t, (x.run t).1 = a := fun _ t => ⟨t, rfl⟩

end Yields

/-! ## Computations that may give up -/

/-- How a computation ends: what it gives has a property, and it does not give up where it may
not. -/
def Ends {ε : Type} (fine : Prop) (p : α → Prop) (out : Except ε α) : Prop :=
  (∀ a, out = .ok a → p a) ∧ (fine → ∃ a, out = .ok a)

/-- An evaluated value is the result. -/
theorem eq_ok_of_toOption {ε : Type} {x : Except ε α} {v : α} (h : x.toOption = some v) :
    x = .ok v := by
  cases x with
  | ok w => exact congrArg Except.ok (Option.some.inj h)
  | error e => cases h

/-- The result of a computation that succeeds, whatever would stand in for it. -/
theorem eq_ok_getD_of_isOk {ε : Type} {x : Except ε α} (h : x.isOk = true) (default : α) :
    x = .ok (x.toOption.getD default) := by
  cases x with
  | ok v => rfl
  | error e => cases h

/-- A computation that succeeds does so part by part. -/
theorem exists_of_bind_eq_ok {ε α β : Type} {x : Except ε α} {f : α → Except ε β} {b : β}
    (h : (x >>= f) = .ok b) : ∃ a, x = .ok a ∧ f a = .ok b := by
  cases x with
  | error e => cases h
  | ok a => exact ⟨a, rfl, h⟩

/-- What comes behind a computation goes on with its value and its log. -/
theorem LogM.fst_run_bind (x : LogM α) (f : α → LogM β) (log : Log) :
    ((x >>= f).run log).1 = ((f (x.run log).1).run (x.run log).2).1 := rfl

/-- What holds of the value of a computation that only adds to a log. -/
def Gives (x : LogM α) (p : α → Prop) : Prop := ∀ log, p (x.run log).1

namespace Gives

variable {ε : Type} {fine : Prop}

theorem bind {x : LogM α} {f : α → LogM β} {p : α → Prop} {q : β → Prop} (hx : Gives x p)
    (hf : ∀ a, p a → Gives (f a) q) : Gives (x >>= f) q := fun log => hf _ (hx log) _

theorem trivial (x : LogM α) : Gives x fun _ => True := fun _ => True.intro

/-- What a computation gives that has nothing to give up for. -/
theorem ok {p : α → Prop} {a : α} (h : p a) :
    Gives (Pure.pure (.ok a) : LogM (Except ε α)) (Ends fine p) :=
  fun _ => ⟨fun _ given => Except.ok.inj given ▸ h, fun _ => ⟨a, rfl⟩⟩

theorem when {fine' : Prop} {x : LogM (Except ε α)} {p : α → Prop} (hx : Gives x (Ends fine p))
    (h : fine' → fine) : Gives x (Ends fine' p) :=
  fun log => ⟨(hx log).1, fun ok => (hx log).2 (h ok)⟩

/-- What the first part gives goes into the second, unless it gave up. -/
theorem andThen {x : LogM (Except ε α)} {f : Except ε α → LogM (Except ε β)} {p : α → Prop}
    {q : β → Prop} (hx : Gives x (Ends fine p)) (stops : ∀ e, f (.error e) = Pure.pure (.error e))
    (hf : ∀ a, p a → Gives (f (.ok a)) (Ends fine q)) : Gives (x >>= f) (Ends fine q) := by
  refine bind hx ?_
  rintro (e | a) ⟨given, done⟩
  · rw [stops]
    refine fun _ => ⟨fun b given => (nomatch given), fun ok => ?_⟩
    obtain ⟨a, impossible⟩ := done ok
    cases impossible
  · exact hf a (given a rfl)

end Gives

end CauseLint
