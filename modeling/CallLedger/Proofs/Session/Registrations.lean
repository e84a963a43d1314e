import CallLedger.Proofs.Registry.Interning
import CallLedger.Proofs.Session.Contract

/-!
# Registrations

Blocks get into a registry by commands of a session, which may register them, resolve names or
ingest samples, and which may be refused or fail.  A registry can also be used by one session
after another, so a request is a command together with the session that carries it out.  Whatever
is requested, identifiers are issued one after another and what is known under one of them stays.
-/

namespace CallLedger

namespace Folded

namespace State

theorem registry_apply (state : State) (count : Count) (names : List String) :
    (state.apply count names).1.registry = (resolveAll state.registry names).1 := rfl

/-- An ingestion resolves frame names one after another, however it ends. -/
theorem ingest_resolves (options : Options) (number : Nat) (state : State) (lines : List Bytes) :
    ∃ names, (ingest options number state lines).1.registry =
      (resolveAll state.registry names).1 := by
  induction lines generalizing number state with
  | nil => exact ⟨[], rfl⟩
  | cons line rest ih =>
      rw [ingest]
      cases options.read number line with
      | skip header => exact ih (number + 1) (state.note (.headerSkipped header))
      | stop | fail fault => exact ⟨[], rfl⟩
      | apply count names =>
          have registry_eq := state.registry_apply count names
          dsimp only
          rcases applied : state.apply count names with ⟨next, outcome⟩
          rw [applied] at registry_eq
          cases outcome with
          | error violation => exact ⟨names, registry_eq⟩
          | ok _ =>
              -- The names of the lines that follow are resolved after those of this one.
              rcases ih (number + 1) next with ⟨more, later⟩
              refine ⟨names ++ more, ?_⟩
              rw [Registry.resolveAll_append, ← registry_eq]
              exact later

end State

end Folded

namespace Session

/-- A session with another registry. -/
def holding (session : Session) (registry : Registry) : Session :=
  { session with registry := registry }

/-- The command registers blocks that are told to it. -/
def Command.Registers : Command → Prop
  | .register _ | .registerAll _ => True
  | _ => False

theorem registry_withThread {session : Session}
    {action : Thread → Session × Except Refusal Answer}
    (kept : ∀ thread, (action thread).1.registry = session.registry) (id : ThreadId) :
    (session.withThread id action).1.registry = session.registry := by
  rw [withThread]
  split
  next thread _ => exact kept thread
  next => rfl

theorem registry_ingest (session : Session) (id : ThreadId) (options : Folded.Options)
    (input : Bytes) :
    ∃ names, (session.ingest id options input).1.registry =
      (Folded.resolveAll session.registry names).1 := by
  rw [ingest, withThread]
  split
  next thread _ =>
    rcases Folded.State.ingest_resolves options 1
      (.start session.registry ⟨thread, session.graph⟩) (Folded.splitLines input)
      with ⟨names, resolved⟩
    refine ⟨names, ?_⟩
    dsimp only
    split <;> exact resolved
  next => exact ⟨[], rfl⟩

/-- A command registers the blocks that it is told or resolves names, if it does not leave the
registry alone. -/
theorem registry_step (session : Session) (command : Command) :
    (command.Registers ∧
        ∃ blocks, (session.step command).1.registry = session.registry.registerAll blocks) ∨
      ∃ names,
        (session.step command).1.registry = (Folded.resolveAll session.registry names).1 := by
  -- A registry that is left alone has resolved no names.
  have alone (kept : (session.step command).1.registry = session.registry) : ∃ names,
      (session.step command).1.registry = (Folded.resolveAll session.registry names).1 :=
    ⟨[], kept⟩
  cases command with
  | register block => exact .inl ⟨trivial, [block], rfl⟩
  | registerAll blocks => exact .inl ⟨trivial, blocks, rfl⟩
  | resolve name => exact .inr ⟨[name], rfl⟩
  | ingest id options input => exact .inr (session.registry_ingest id options input)
  | startThread | record _ _ _ | recordUnattributed _ | ensureRow _ | track =>
      exact .inr (alone rfl)
  | fork id | drop id =>
      refine .inr (alone (registry_withThread (fun thread => ?_) id))
      rfl
  | operate id operation =>
      refine .inr (alone (registry_withThread (fun thread => ?_) id))
      split <;> rfl
  | compute =>
      refine .inr (alone ?_)
      rw [step]
      split <;> rfl
  | inspect id | report limit =>
      refine .inr (alone ?_)
      rw [step, fst_withProfile]

theorem grows_step (session : Session) (command : Command) :
    session.registry.Grows (session.step command).1.registry := by
  rcases session.registry_step command with ⟨_, blocks, registered⟩ | ⟨names, resolved⟩
  · rw [registered]
    exact List.prefix_append ..
  · rw [resolved]
    exact session.registry.grows_resolveAll names

theorem distinct_step (session : Session) (distinct : session.registry.Distinct)
    {command : Command} (byName : ¬command.Registers) :
    (session.step command).1.registry.Distinct := by
  rcases session.registry_step command with ⟨registers, _⟩ | ⟨names, resolved⟩
  · exact absurd registers byName
  · rw [resolved]
    exact distinct.resolveAll names

end Session

namespace Registry

/-- A command, and the session by which it is carried out. -/
structure Request where
  session : Session
  command : Session.Command

/-- The registry after a request; the session uses it instead of its own. -/
def serve (registry : Registry) (request : Request) : Registry :=
  ((request.session.holding registry).step request.command).1.registry

/-- The registry after several requests. -/
def serveAll (registry : Registry) (requests : List Request) : Registry :=
  requests.foldl serve registry

/-- Requests add blocks behind those that there are. -/
theorem grows_serveAll (registry : Registry) (requests : List Request) :
    registry.Grows (registry.serveAll requests) := by
  induction requests generalizing registry with
  | nil => exact List.prefix_rfl
  | cons request rest ih =>
      exact ((request.session.holding registry).grows_step request.command).trans (ih _)

theorem Distinct.serveAll {registry : Registry} (distinct : registry.Distinct)
    {requests : List Request} (byName : ∀ request ∈ requests, ¬request.command.Registers) :
    (registry.serveAll requests).Distinct := by
  induction requests generalizing registry with
  | nil => exact distinct
  | cons request rest ih =>
      rw [List.forall_mem_cons] at byName
      exact ih ((request.session.holding registry).distinct_step distinct byName.1) byName.2

end Registry

namespace Session

/-- What a session answers to requests for blocks, and what comes of them. -/
structure Interns (session : Session) : Prop where
  root : session.registry.get? .root = some .root
  /-- All identifiers that were issued are in use, and no others. -/
  issued : ∀ id, (session.registry.get? id).isSome ↔ id.index < session.registry.size
  register : ∀ block, ∃ next,
    session.step (.register block) = (next, .ok (.block ⟨session.registry.size⟩)) ∧
      next.registry.size = session.registry.size + 1 ∧
      next.registry.get? ⟨session.registry.size⟩ = some block
  /-- Blocks that are registered together receive identifiers that follow each other. -/
  registerAll : ∀ blocks, ∃ next,
    session.step (.registerAll blocks) = (next, .ok (.block ⟨session.registry.size⟩)) ∧
      next.registry.size = session.registry.size + blocks.length ∧
      ∀ position, next.registry.get? ⟨session.registry.size + position⟩ = blocks[position]?
  /-- A name is resolved to one block other than the root, now and ever after. -/
  resolve : ∀ name, ∃ resolution, session.registry.Resolves name resolution ∧
    resolution.id ≠ .root ∧
    session.step (.resolve name) =
      (session.holding resolution.registry, .ok (.resolved resolution.id resolution.isNew)) ∧
    ∀ (more : List Registry.Request) (other : Session),
      (other.holding (resolution.registry.serveAll more)).step (.resolve name) =
        (other.holding (resolution.registry.serveAll more), .ok (.resolved resolution.id false))
  /-- An ingestion resolves frame names, one after another. -/
  ingest : ∀ id options input, ∃ names,
    (session.step (.ingest id options input)).1.registry =
      (Folded.resolveAll session.registry names).1
  /-- A search by name finds the first block that has it, which may be the root. -/
  find : ∀ name id,
    session.registry.find? name = some id ↔ id.IsFirst (session.registry.Named name)
  /-- What an identifier stands for does not change. -/
  keeps : ∀ (more : List Registry.Request) id block, session.registry.get? id = some block →
    (session.registry.serveAll more).get? id = some block

theorem interns (session : Session) : session.Interns where
  root := rfl
  issued id := Registry.isSome_get?_iff
  register block := by
    refine ⟨_, rfl, ?_, Registry.get?_register_nextId session.registry block⟩
    simp [Registry.register]
  registerAll blocks := by
    refine ⟨_, rfl, ?_, session.registry.get?_registerAll blocks⟩
    simp [Registry.registerAll, Nat.add_right_comm]
  resolve name := by
    have resolved := session.registry.resolves_resolve name
    refine ⟨_, resolved, resolved.id_ne_root, rfl, ?_⟩
    intro more other
    have again := Registry.Grows.resolve_eq resolved (Registry.grows_serveAll _ more)
    rw [step, holding, again]
  ingest id options input := session.registry_ingest id options input
  find name id := Registry.find?_eq_some_iff
  keeps more id block issued := (session.registry.grows_serveAll more).get?_eq issued

end Session

namespace Registry

/-- **Identifiers and names are interned.**  Identifiers are issued from one on.  After whatever
requests, a session answers with the next identifier or, for a name, with the first block other
than the root that has it; if none has, there is one from then on.  As long as blocks are only
asked for by name, no two of them have one name. -/
theorem serveAll_interns (requests : List Request) :
    empty.size = 1 ∧
      (∀ session : Session, (session.holding (empty.serveAll requests)).Interns) ∧
      ((∀ request ∈ requests, ¬request.command.Registers) →
        (empty.serveAll requests).Distinct) :=
  ⟨rfl, fun session => (session.holding _).interns, fun byName => distinct_empty.serveAll byName⟩

/-- An ingestion that reads a frame named like the root and then a line that is no sample. -/
def rootFrame : Request :=
  ⟨.start .empty (.ofSize 1), .ingest 0 ⟨false, id⟩ (.ofText "2 f;<root>\nx g\n")⟩

/-- The same name was resolved before that. -/
def rootFrames : List Request :=
  [⟨.start .empty (.ofSize 1), .resolve "<root>"⟩, rootFrame]

theorem serveAll_interns_rootFrames :
    (∀ request ∈ rootFrames, ¬request.command.Registers) ∧
      (empty.serveAll rootFrames).Distinct ∧
      (empty.serveAll rootFrames).find? "<root>" = some .root ∧
      ∀ session : Session,
        ((session.holding (empty.serveAll rootFrames)).step (.resolve "<root>")).2 =
          .ok (.resolved ⟨1⟩ false) := by
  obtain ⟨_, interns, distinct⟩ := serveAll_interns rootFrames
  have byName : ∀ request ∈ rootFrames, ¬request.command.Registers := by
    simp [rootFrames, rootFrame, Session.Command.Registers]
  refine ⟨byName, distinct byName, ?_, ?_⟩
  · apply ((interns (.start .empty (.ofSize 1))).find "<root>" .root).mpr
    exact ⟨⟨.root, rfl, rfl⟩, fun _ _ => Nat.zero_le _⟩
  · intro session
    obtain ⟨resolution, resolved, _, _, again⟩ :=
      ((serveAll_interns []).2.1 session).resolve "<root>"
    cases resolved with
    | known first => exact absurd first.1 (not_carries_empty _ _)
    | new unknown => exact congrArg Prod.snd (again [rootFrame] session)

end Registry

end CallLedger
