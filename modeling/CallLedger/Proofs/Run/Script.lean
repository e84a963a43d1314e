import CallLedger.Proofs.Run.Steps

/-!
# Threads that follow scripts

A script is everything that a thread is going to do, the scripts of the threads that it
forks included.  Threads take turns in some order, and what can be seen of each is written
down after every action of its own.  What a thread sees depends on its script alone, so the
stories of all threads can be told without any schedule.
-/

namespace CallLedger

open Session (ThreadId Refusal Answer)

/-- What a thread is going to do. -/
inductive Script where
  | done
  | operate (operation : Operation) (rest : Script)
  /-- Start a second thread that continues from here with a script of its own. -/
  | fork (child rest : Script)
  deriving DecidableEq

/-- Which thread is meant: a first thread by its number, a forked one by the number of the
fork in front of the address of the thread that forked it. -/
abbrev Address := List Nat

/-- What can be seen of a thread after one of its actions. -/
structure Moment where
  /-- Why the action was refused, if it was. -/
  refused : Option Refusal
  stack : List BlockId
  current : BlockId

/-- What can be seen of a thread over time, from its first moment on. -/
structure Story where
  address : Address
  moments : List Moment

/-- The view of a thread. -/
def Thread.moment (thread : Thread) (refused : Option Refusal) : Moment :=
  ⟨refused, thread.stack, thread.current⟩

/-- One more moment. -/
def Story.note (story : Story) (moment : Moment) : Story :=
  { story with moments := story.moments ++ [moment] }

@[simp] theorem Story.address_note (story : Story) (moment : Moment) :
    (story.note moment).address = story.address := rfl

/-- Why an operation is refused, if it is. -/
def Thread.refusal (thread : Thread) (operation : Operation) : Option Refusal :=
  match thread.apply operation with
  | .ok _ => none
  | .error violation => some (.violated violation)

namespace Script

/-- The stories of a thread and of all threads forked from it, told to their end.  The
story of the thread itself goes on from `story`, and it forked `forks` threads before. -/
def stories (thread : Thread) (story : Story) (forks : Nat) : Script → List Story
  | done => [story]
  | operate operation rest =>
      let next := thread.after operation
      rest.stories next (story.note (next.moment (thread.refusal operation))) forks
  | fork child rest =>
      rest.stories thread (story.note (thread.moment none)) (forks + 1) ++
        child.stories thread.fork ⟨forks :: story.address, [thread.fork.moment none]⟩ 0

/-- Everything that a thread and the threads forked from it ask of the graph. -/
def requests (thread : Thread) : Script → List GraphUpdate
  | done => []
  | operate operation rest =>
      thread.requests operation ++ rest.requests (thread.after operation)
  | fork child rest => rest.requests thread ++ child.requests thread.fork

/-- Stories are told of the thread itself or of threads that it forks from now on. -/
theorem address_of_mem_stories {script : Script} {thread : Thread} {story told : Story}
    {forks : Nat} (member : told ∈ script.stories thread story forks) :
    told.address = story.address ∨
      ∃ number, forks ≤ number ∧ number :: story.address <:+ told.address := by
  induction script generalizing thread story forks with
  | done => exact .inl (congrArg Story.address (List.mem_singleton.mp member))
  | operate operation rest ih =>
      have later := ih member
      exact later
  | fork child rest childIH restIH =>
      rcases List.mem_append.mp member with own | forked
      · rcases restIH own with same | ⟨number, later, below⟩
        · exact .inl same
        · exact .inr ⟨number, Nat.le_of_succ_le later, below⟩
      · right
        rcases childIH forked with same | ⟨number, _, below⟩
        · exact ⟨forks, Nat.le_refl _, same ▸ List.suffix_rfl⟩
        · exact ⟨forks, Nat.le_refl _, (List.suffix_cons ..).trans below⟩

theorem suffix_of_mem_stories {script : Script} {thread : Thread} {story told : Story}
    {forks : Nat} (member : told ∈ script.stories thread story forks) :
    story.address <:+ told.address := by
  rcases address_of_mem_stories member with same | ⟨number, _, below⟩
  · exact same ▸ List.suffix_rfl
  · exact (List.suffix_cons ..).trans below

theorem number_eq_of_suffix {left right : Nat} {above address : Address}
    (leftBelow : left :: above <:+ address) (rightBelow : right :: above <:+ address) :
    left = right := by
  have sameLength : (left :: above).length = (right :: above).length := rfl
  have leftEq := List.suffix_iff_eq_drop.mp leftBelow
  rw [sameLength, ← List.suffix_iff_eq_drop.mp rightBelow] at leftEq
  exact (List.cons.inj leftEq).1

/-- No two stories are told of the same thread. -/
theorem distinct_stories (script : Script) (thread : Thread) (story : Story) (forks : Nat) :
    ((script.stories thread story forks).map Story.address).Nodup := by
  induction script generalizing thread story forks with
  | done => exact List.nodup_singleton _
  | operate operation rest ih => exact ih ..
  | fork child rest childIH restIH =>
      rw [stories, List.map_append, List.nodup_append]
      refine ⟨restIH .., childIH .., ?_⟩
      intro own ownListed forked forkedListed equal
      rcases List.mem_map.mp ownListed with ⟨ownStory, ownMember, rfl⟩
      rcases List.mem_map.mp forkedListed with ⟨forkedStory, forkedMember, rfl⟩
      have below : forks :: story.address <:+ forkedStory.address :=
        suffix_of_mem_stories forkedMember
      rw [← equal] at below
      -- The parent's address is too short, and its later forks have higher numbers.
      rcases address_of_mem_stories ownMember with same | ⟨number, later, ownBelow⟩
      · have shorter := below.length_le
        rw [same, Story.address_note, List.length_cons] at shorter
        exact Nat.not_succ_le_self _ shorter
      · have number_eq : number = forks := number_eq_of_suffix ownBelow below
        exact Nat.not_succ_le_self forks (number_eq ▸ later)

end Script

end CallLedger
