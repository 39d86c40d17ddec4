namespace TileServer

/-- The variables of an environment. Of two with one name the first counts. -/
structure Environment where
  bindings : List (String × String)
  deriving Repr, DecidableEq

namespace Environment

def get? (environment : Environment) (name : String) : Option String :=
  environment.bindings.lookup name

def filled? (environment : Environment) (name : String) : Option String :=
  (environment.get? name).filter (fun value => !value.isEmpty)

def home? (environment : Environment) : Option String :=
  environment.filled? "HOME"

def unset (environment : Environment) (name : String) : Environment :=
  ⟨environment.bindings.filter (fun entry => entry.1 != name)⟩

theorem get?_unset (environment : Environment) (name other : String) :
    (environment.unset name).get? other = if other = name then none else environment.get? other := by
  obtain ⟨bindings⟩ := environment
  induction bindings with
  | nil => exact (ite_self none).symm
  | cons binding bindings ih =>
    obtain ⟨key, value⟩ := binding
    simp only [unset, get?] at ih ⊢
    by_cases own : key = name
    · subst own
      rw [List.filter_cons_of_neg (by simp), ih, List.lookup_cons]
      by_cases same : other = key
      · rw [if_pos same, if_pos same]
      · rw [if_neg same, if_neg same, beq_false_of_ne same]
    · rw [List.filter_cons_of_pos (by simpa using own), List.lookup_cons, List.lookup_cons, ih]
      by_cases same : other = key
      · subst same
        rw [beq_self_eq_true]
        exact (if_neg own).symm
      · rw [beq_false_of_ne same]

def set (environment : Environment) (name value : String) : Environment :=
  ⟨(name, value) :: (environment.unset name).bindings⟩

end Environment

end TileServer
