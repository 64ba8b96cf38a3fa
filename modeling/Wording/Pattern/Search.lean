/-!
# Ordered alternatives

The ways in which a pattern can match form a list in order of preference. `Search` is that list with
its tail computed on demand, so that taking the first way costs no more than finding it. `toList` is
the plain view, and every operation has its equation through it.

All recursions follow the structure of the list.
-/

namespace Wording.Pattern

/-- A list of answers in order of preference, computed on demand. -/
inductive Search (α : Type) where
  | done
  | found (a : α) (rest : Unit → Search α)

namespace Search

variable {α β : Type}

/-- All answers. -/
def toList : Search α → List α
  | done => []
  | found a rest => a :: (rest ()).toList

/-- The preferred answer. -/
def first? : Search α → Option α
  | done => none
  | found a _ => some a

/-- The first answer that satisfies `p`. -/
def find? (p : α → Bool) : Search α → Option α
  | done => none
  | found a rest => if p a then some a else (rest ()).find? p

protected def pure (a : α) : Search α := found a fun _ => done

/-- The answers of `s`, then those of `t`. -/
def append (s : Search α) (t : Unit → Search α) : Search α :=
  match s with
  | done => t ()
  | found a rest => found a fun _ => (rest ()).append t

/-- Goes on from every answer in turn. -/
def bind (s : Search α) (f : α → Search β) : Search β :=
  match s with
  | done => done
  | found a rest => (f a).append fun _ => (rest ()).bind f

/-- Keeps the preferred answer only. -/
def once : Search α → Search α
  | done => done
  | found a _ => Search.pure a

@[simp] theorem toList_done : (done : Search α).toList = [] := rfl

@[simp] theorem toList_found (a : α) (rest : Unit → Search α) :
    (found a rest).toList = a :: (rest ()).toList := rfl

@[simp] theorem toList_pure (a : α) : (Search.pure a).toList = [a] := rfl

@[simp] theorem toList_append (s : Search α) (t : Unit → Search α) :
    (s.append t).toList = s.toList ++ (t ()).toList := by
  induction s with
  | done => rfl
  | found a rest ih => simp [append, ih]

@[simp] theorem toList_bind (s : Search α) (f : α → Search β) :
    (s.bind f).toList = s.toList.flatMap fun a => (f a).toList := by
  induction s with
  | done => rfl
  | found a rest ih => simp [bind, ih]

@[simp] theorem toList_once (s : Search α) : s.once.toList = s.toList.take 1 := by
  cases s <;> simp [once]

theorem first?_eq_head? (s : Search α) : s.first? = s.toList.head? := by
  cases s <;> rfl

theorem find?_eq_find? (p : α → Bool) (s : Search α) : s.find? p = s.toList.find? p := by
  induction s with
  | done => rfl
  | found a rest ih =>
    simp only [find?, toList_found, List.find?_cons]
    cases p a <;> simp [ih]

end Search

end Wording.Pattern
