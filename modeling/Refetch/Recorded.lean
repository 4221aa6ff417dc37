/-!
# Recorded values

A value together with what was recorded on the way to it, as a monad: of two computations in
a row the second one's record follows the first one's. The value never depends on the record.
-/

namespace Refetch

/-- A value together with what was recorded on the way to it. -/
@[ext] structure Recorded (ε α : Type) where
  /-- what was recorded, in order -/
  events : List ε
  /-- the value -/
  value : α

namespace Recorded

variable {ε α β : Type}

instance : Monad (Recorded ε) where
  pure x := ⟨[], x⟩
  bind r f := ⟨r.events ++ (f r.value).events, (f r.value).value⟩

/-- Recording in a row does not depend on how the steps are grouped. -/
instance : LawfulMonad (Recorded ε) := by
  refine LawfulMonad.mk' _ (fun r => ?_) (fun x f => ?_) (fun r f g => ?_)
  · exact Recorded.ext (List.append_nil r.events) rfl
  · exact Recorded.ext (List.nil_append (f x).events) rfl
  · exact Recorded.ext (List.append_assoc r.events _ _) rfl

/-- Records one event. -/
def note (event : ε) (value : α) : Recorded ε α := ⟨[event], value⟩

@[simp] theorem events_pure (x : α) : (pure x : Recorded ε α).events = [] := rfl

@[simp] theorem events_bind (r : Recorded ε α) (f : α → Recorded ε β) :
    (r >>= f).events = r.events ++ (f r.value).events := rfl

@[simp] theorem value_bind (r : Recorded ε α) (f : α → Recorded ε β) :
    (r >>= f).value = (f r.value).value := rfl

@[simp] theorem events_map (f : α → β) (r : Recorded ε α) : (f <$> r).events = r.events :=
  List.append_nil r.events

@[simp] theorem value_map (f : α → β) (r : Recorded ε α) : (f <$> r).value = f r.value := rfl

@[simp] theorem events_note (event : ε) (x : α) : (note event x).events = [event] := rfl

@[simp] theorem value_note (event : ε) (x : α) : (note event x).value = x := rfl

end Recorded

end Refetch
