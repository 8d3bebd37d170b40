import Handheld.Event
import Handheld.Fault

/-!
# Actions

An action works on a state.  It either yields a value or stops, and what it did to
the state and reported before it stopped remains.  In a sequence the events of the
first action come first, and a stop ends the sequence.
-/

namespace Handheld

/-- What comes of an action. -/
structure Outcome (σ α : Type) where
  result : Except Stop α
  state : σ
  /-- What was reported, the earliest event first. -/
  events : List Event

/-- Work on a state of type `σ` that yields a value of type `α`. -/
def Action (σ α : Type) : Type :=
  σ → Outcome σ α

namespace Action

@[inline] def pure (a : α) : Action σ α :=
  fun s => ⟨.ok a, s, []⟩

@[inline] def bind (x : Action σ α) (f : α → Action σ β) : Action σ β :=
  fun s =>
    match x s with
    | ⟨.ok a, s, events⟩ =>
      match f a s with
      | ⟨result, s, later⟩ => ⟨result, s, events ++ later⟩
    | ⟨.error e, s, events⟩ => ⟨.error e, s, events⟩

instance : Monad (Action σ) where
  pure := Action.pure
  bind := Action.bind

/-- Computes a value from the state. -/
@[inline] def view (f : σ → α) : Action σ α :=
  fun s => ⟨.ok (f s), s, []⟩

/-- Replaces the state. -/
@[inline] def modify (f : σ → σ) : Action σ Unit :=
  fun s => ⟨.ok (), f s, []⟩

/-- Reports events that depend on the state. -/
@[inline] def report (events : σ → List Event) : Action σ Unit :=
  fun s => ⟨.ok (), s, events s⟩

@[inline] def stop (e : Stop) : Action σ α :=
  fun s => ⟨.error e, s, []⟩

/-- Goes on with the value, or stops with the fault. -/
@[inline] def expect (x : Except Fault α) : Action σ α :=
  match x with
  | .ok a => pure a
  | .error e => stop (.fault e)

theorem bind_of_ok {x : Action σ α} {f : α → Action σ β} {s s' : σ} {a : α}
    {events : List Event} (h : x s = ⟨.ok a, s', events⟩) :
    (x >>= f) s =
      ⟨(f a s').result, (f a s').state, events ++ (f a s').events⟩ := by
  show Action.bind x f s = _
  simp only [Action.bind, h]

/-- As `bind_of_ok`, when nothing is reported. -/
theorem bind_of_silent {x : Action σ α} {f : α → Action σ β} {s s' : σ} {a : α}
    (h : x s = ⟨.ok a, s', []⟩) : (x >>= f) s = f a s' := by
  rw [bind_of_ok h, List.nil_append]

theorem bind_of_error {x : Action σ α} {f : α → Action σ β} {s s' : σ} {e : Stop}
    {events : List Event} (h : x s = ⟨.error e, s', events⟩) :
    (x >>= f) s = ⟨.error e, s', events⟩ := by
  show Action.bind x f s = _
  simp only [Action.bind, h]

theorem id_map (x : Action σ α) : id <$> x = x := by
  funext s
  show Action.bind x (fun a => Action.pure a) s = x s
  rcases h : x s with ⟨_ | _, _, _⟩ <;> simp [Action.bind, Action.pure, h]

theorem pure_bind (a : α) (f : α → Action σ β) : Pure.pure a >>= f = f a := by
  funext s
  show Action.bind (Action.pure a) f s = f a s
  simp [Action.bind, Action.pure]

theorem bind_assoc (x : Action σ α) (f : α → Action σ β) (g : β → Action σ γ) :
    x >>= f >>= g = x >>= fun a => f a >>= g := by
  funext s
  show Action.bind (Action.bind x f) g s = Action.bind x (fun a => Action.bind (f a) g) s
  rcases hx : x s with ⟨_ | a, s', events⟩
  · simp [Action.bind, hx]
  · rcases hf : f a s' with ⟨_ | b, s'', later⟩ <;> simp [Action.bind, hx, hf]

instance : LawfulMonad (Action σ) :=
  LawfulMonad.mk' (Action σ) id_map pure_bind bind_assoc

end Action

end Handheld
