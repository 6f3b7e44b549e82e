import KirbyOcpp.Data.Paths

/-!
# Rotation of a credential

A party authenticates with a credential of type `P`. A new one may be adopted while a connection is open;
the one it replaces stays as the previous one until a connection tells which of the two works. Several may
be adopted before that: only the last is kept beside the previous one.

**The law** `Sound`: the credential that established a connection last is never lost, and a previous one
exists only while the newest has not worked.
-/

namespace KirbyOcpp

open Relation Paths

/-- The two slots, the running attempt and the connection. -/
structure Rotation (P : Type*) where
  current : P
  previous : Option P
  /-- The running attempt: whether it presents the previous credential, and what it presents. -/
  attempt : Option (Bool × P)
  linked : Bool
  /-- What established a connection last. -/
  working : Option P
  /-- The credential adopted last has established a connection. -/
  newestWorked : Bool
  /-- Everything adopted so far, latest first. -/
  adopted : List P

namespace Rotation

variable {P : Type*} {s s' : Rotation P}

/-- What an attempt presents that may prefer the previous credential. -/
def chosen (s : Rotation P) (prefersPrevious : Bool) : Bool × P :=
  match s.previous with
  | some p => if prefersPrevious then (true, p) else (false, s.current)
  | none => (false, s.current)

/-- What may happen. -/
inductive Trans : Rotation P → Rotation P → Prop
  | adopt (s : Rotation P) (p : P) (linked : s.linked = true) :
    Trans s { s with
      current := p, previous := some (s.previous.getD s.current), adopted := p :: s.adopted, newestWorked := false }
  | start (s : Rotation P) (prefersPrevious : Bool) (idle : s.attempt = none) (down : s.linked = false) :
    Trans s { s with attempt := some (s.chosen prefersPrevious) }
  | connected (s : Rotation P) (viaPrevious : Bool) (p : P) (attempt : s.attempt = some (viaPrevious, p)) :
    Trans s { s with
      attempt := none, linked := true, working := some p, newestWorked := s.newestWorked || !viaPrevious
      current := if viaPrevious then s.previous.getD s.current else s.current, previous := none }
  | failed (s : Rotation P) : Trans s { s with attempt := none }
  | down (s : Rotation P) : Trans s { s with linked := false }

/-- What always holds. -/
structure Sound (s : Rotation P) : Prop where
  /-- The attempt runs without a connection and presents what is stored. -/
  attempt : ∀ viaPrevious p, s.attempt = some (viaPrevious, p) →
    s.linked = false ∧ if viaPrevious then s.previous = some p else s.current = p
  /-- What worked last is stored, and is not the credential that may still be replaced. -/
  working : ∀ p, s.working = some p → s.previous = some p ∨ s.previous = none ∧ s.current = p
  waiting : s.previous ≠ none → s.newestWorked = false
  current : s.current ∈ s.adopted
  previous : ∀ p, s.previous = some p → p ∈ s.adopted

theorem Trans.sound (step : Trans s s') (sound : Sound s) : Sound s' := by
  cases step with
  | adopt p linked =>
    refine ⟨fun viaPrevious q running => ?_, fun q worked => ?_, fun _ => rfl, List.mem_cons_self, fun q kept => ?_⟩
    · have down := (sound.attempt viaPrevious q running).1
      rw [linked] at down
      cases down
    · left
      rcases sound.working q worked with kept | ⟨none, same⟩
      · show some (s.previous.getD s.current) = some q
        rw [kept]
        rfl
      · show some (s.previous.getD s.current) = some q
        rw [none, ← same]
        rfl
    · have kept : some (s.previous.getD s.current) = some q := kept
      obtain rfl := Option.some.inj kept
      refine List.mem_cons_of_mem _ ?_
      cases h : s.previous with
      | none => exact sound.current
      | some r => exact sound.previous r h
  | start prefersPrevious idle down =>
    refine ⟨fun viaPrevious q running => ⟨down, ?_⟩, sound.working, sound.waiting, sound.current, sound.previous⟩
    have running : some (s.chosen prefersPrevious) = some (viaPrevious, q) := running
    have chosen := Option.some.inj running
    unfold Rotation.chosen at chosen
    split at chosen
    · rename_i r previous
      split at chosen <;> (obtain ⟨rfl, rfl⟩ := Prod.mk.inj chosen)
      · exact previous
      · rfl
    · obtain ⟨rfl, rfl⟩ := Prod.mk.inj chosen
      rfl
  | connected viaPrevious p running =>
    obtain ⟨-, stored⟩ := sound.attempt viaPrevious p running
    refine ⟨fun _ _ none => (nomatch none), fun q worked => .inr ⟨rfl, ?_⟩, fun some => absurd rfl some, ?_,
      fun q none => (nomatch none)⟩
    · obtain rfl : p = q := Option.some.inj worked
      cases viaPrevious with
      | false => exact stored
      | true =>
        have stored : s.previous = some p := stored
        simp [stored]
    · cases viaPrevious with
      | false => exact sound.current
      | true =>
        have stored : s.previous = some p := stored
        simpa [stored] using sound.previous p stored
  | failed =>
    exact ⟨fun _ _ none => (nomatch none), sound.working, sound.waiting, sound.current, sound.previous⟩
  | down =>
    exact ⟨fun v p running => ⟨rfl, (sound.attempt v p running).2⟩, sound.working, sound.waiting, sound.current,
      sound.previous⟩

theorem path_sound (path : ReflTransGen Trans s s') (sound : Sound s) : Sound s' :=
  Preserves.path (fun _ _ step => step.sound) path sound

end Rotation

end KirbyOcpp
