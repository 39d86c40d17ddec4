import TileServer.Server.Answer

namespace TileServer

def tell (pick : Deed → List α) (journal : List Deed) : List α :=
  journal.reverse.flatMap pick

@[simp] theorem tell_nil (pick : Deed → List α) : tell pick [] = [] := rfl

@[simp] theorem tell_cons (pick : Deed → List α) (deed : Deed) (past : List Deed) :
    tell pick (deed :: past) = tell pick past ++ pick deed := by
  simp [tell]

theorem tell_append (pick : Deed → List α) (later past : List Deed) :
    tell pick (later ++ past) = tell pick past ++ tell pick later := by
  simp [tell]

theorem tell_eq_nil {pick : Deed → List α} {journal : List Deed}
    (silent : ∀ deed ∈ journal, pick deed = []) : tell pick journal = [] := by
  simp only [tell, List.flatMap_eq_nil_iff, List.mem_reverse]
  exact silent

theorem tell_of_silent {pick : Deed → List α} {later : List Deed} (past : List Deed)
    (silent : ∀ deed ∈ later, pick deed = []) : tell pick (later ++ past) = tell pick past := by
  rw [tell_append, tell_eq_nil silent, List.append_nil]

namespace Deed

def serial? : Deed → Option Nat
  | accepted serial => some serial
  | read serial _ => some serial
  | request serial _ => some serial
  | subscribed serial _ => some serial
  | reply serial _ => some serial
  | finished serial => some serial
  | notified serial _ => some serial
  | dropped serial _ => some serial
  | arrived _ => none
  | published _ => none
  | rendered => none

def bytesOf (serial : Nat) : Deed → Bytes
  | read other bytes => if other = serial then bytes else []
  | _ => []

def requestsOf (serial : Nat) : Deed → List Wire.Message
  | request other message => if other = serial then [message] else []
  | _ => []

/-- The handled messages of a client and the replies that were queued for it. -/
def exchangeOf (serial : Nat) : Deed → List Deed
  | request other message => if other = serial then [request other message] else []
  | reply other message => if other = serial then [reply other message] else []
  | _ => []

def noticesTo (serial : Nat) : Deed → List Wire.Message
  | notified other message => if other = serial then [message] else []
  | _ => []

def namesOf (serial : Nat) : Deed → List String
  | subscribed other events => if other = serial then events else []
  | _ => []

def arrivals : Deed → List Event
  | arrived event => [event]
  | _ => []

def IsOutward : Deed → Prop
  | reply _ _ | finished _ | arrived _ | published _ | notified _ _ | rendered => True
  | _ => False

structure IsSilent (serial : Nat) (deed : Deed) : Prop where
  bytes : deed.bytesOf serial = []
  requests : deed.requestsOf serial = []
  names : deed.namesOf serial = []

theorem isSilent_of_outward {deed : Deed} (outward : deed.IsOutward) (serial : Nat) :
    deed.IsSilent serial := by
  cases deed <;> simp only [IsOutward] at outward <;> exact ⟨rfl, rfl, rfl⟩

theorem isSilent_of_other {deed : Deed} {serial : Nat} (other : deed.serial? ≠ some serial) :
    deed.IsSilent serial := by
  refine ⟨?_, ?_, ?_⟩
  · cases deed <;> simp_all [serial?, bytesOf]
  · cases deed <;> simp_all [serial?, requestsOf]
  · cases deed <;> simp_all [serial?, namesOf]

theorem isSilent_accepted (serial other : Nat) : (accepted other).IsSilent serial :=
  ⟨rfl, rfl, rfl⟩

theorem isSilent_dropped (serial other : Nat) (cause : Cause) :
    (dropped other cause).IsSilent serial :=
  ⟨rfl, rfl, rfl⟩

end Deed

def live : List Deed → List Nat
  | [] => []
  | .accepted serial :: past => live past ++ [serial]
  | .dropped serial _ :: past => (live past).erase serial
  | _ :: past => live past

theorem live_of_outward {later : List Deed} (past : List Deed)
    (outward : ∀ deed ∈ later, deed.IsOutward) : live (later ++ past) = live past := by
  induction later with
  | nil => rfl
  | cons deed later ih =>
    have rest := ih (fun other member => outward other (List.mem_cons_of_mem _ member))
    have here := outward deed List.mem_cons_self
    cases deed <;> simp only [Deed.IsOutward] at here <;> exact rest

theorem live_cons_of_outward {deed : Deed} (past : List Deed) (outward : deed.IsOutward) :
    live (deed :: past) = live past := by
  rw [← List.singleton_append]
  exact live_of_outward past (by simpa using outward)

def follows (serial : Nat) (name : String) (journal : List Deed) : Bool :=
  (tell (Deed.namesOf serial) journal).any (fun wanted => Text.sameFolded wanted name)

inductive Phase
  | idle
  | heralding (event : Event)
  | handling (serial : Nat) (message : Wire.Message)
  | answered (serial : Nat) (message : Wire.Message)
  deriving DecidableEq

def Phase.after (phase : Phase) : Deed → Phase
  | .request serial message => handling serial message
  | .reply _ _ => match phase with
    | handling serial message => answered serial message
    | _ => phase
  | .finished _ => idle
  | .arrived event => heralding event
  | .published _ => match phase with
    | heralding _ => idle
    | _ => phase
  | _ => phase

def phase : List Deed → Phase
  | [] => .idle
  | deed :: past => (phase past).after deed

end TileServer
