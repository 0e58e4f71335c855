/-
  ScriptGate.Proofs.Deployment.Recording — what becomes of the records does not matter.

  Every step is recorded, and whoever keeps the records may fail to.  The keeper is taken here with
  a state of its own, so that it may fail at any of the calls and for any reason; the validator,
  the backup and the database go on as they do.  Two deployments that are recorded by different
  keepers cannot be told apart by anything but the records.
  Main statements:
    - `recordedBy_alike`  — services that differ in the keeper of their records only are alike;
    - `footprints_seen`   — whoever keeps the records, every step leaves the same behind.
-/
import ScriptGate.Proofs.Deployment.History

namespace ScriptGate.Deployment

open ScriptGate.Audit

/-! ## §1. Keepers of records -/

/-- Something done in the first part of a state. -/
def inFront (m : StateM τ α) : StateM (τ × ρ) α := fun s => ((m s.1).1, ((m s.1).2, s.2))

/-- Something done in the second part of a state. -/
def inBack (m : StateM ρ α) : StateM (τ × ρ) α := fun s => ((m s.2).1, (s.1, (m s.2).2))

/-- The services, with the records of the steps handed to a keeper with a state of its own. -/
def Services.recordedBy (services : Services τ)
    (keeper : Moment → Record → StateM ρ (Except Fault Unit)) : Services (τ × ρ) where
  validate script := inFront (services.validate script)
  backup := inFront services.backup
  record now kept := inBack (keeper now kept)
  database := services.database.beside
  schema := services.schema
  digest := services.digest

/-- The services stand alike, and the same was asked of them. -/
def AlikeInFront (s : (τ × ρ) × List Contact) (t : (τ × ρ') × List Contact) : Prop :=
  s.1.1 = t.1.1 ∧ s.2 = t.2

section

variable {ρ ρ' : Type} (services : Services τ)
  (keeper : Moment → Record → StateM ρ (Except Fault Unit))
  (keeper' : Moment → Record → StateM ρ' (Except Fault Unit))

/-- **Services that differ in the keeper of their records only are alike.** -/
theorem recordedBy_alike :
    Services.Alike AlikeInFront (services.recordedBy keeper).watched
      (services.recordedBy keeper').watched where
  validate script := by
    rintro ⟨⟨world, _⟩, log⟩ ⟨⟨_, _⟩, _⟩ ⟨rfl, rfl⟩
    exact ⟨rfl, rfl, rfl⟩
  backup := by
    rintro ⟨⟨world, _⟩, log⟩ ⟨⟨_, _⟩, _⟩ ⟨rfl, rfl⟩
    exact ⟨rfl, rfl, rfl⟩
  record now kept := by
    -- the keepers may answer differently, and the world is out of their reach
    rintro ⟨⟨world, _⟩, log⟩ ⟨⟨_, _⟩, _⟩ ⟨rfl, rfl⟩
    exact ⟨rfl, rfl⟩
  ask call := by
    rintro ⟨⟨world, _⟩, log⟩ ⟨⟨_, _⟩, _⟩ ⟨rfl, rfl⟩
    exact ⟨rfl, rfl, rfl⟩
  schema := rfl
  digest := rfl

end

/-! ## §2. Footprints -/

/-- What a step leaves behind. -/
structure Footprint (σ : Type) where
  /-- what was done, what came of it and what it asked of others -/
  event : Event
  /-- the deployment behind it -/
  workflow : Workflow
  /-- the state of everything else behind it -/
  world : σ

/-- What a footprint shows of everything but the keeper of the records. -/
def Footprint.seen (f : Footprint (τ × ρ)) : Footprint τ := ⟨f.event, f.workflow, f.world.1⟩

namespace Workflow

/-- What is left behind, step by step, when commands are given one after the other. -/
def footprints (services : Services σ) :
    List (Moment × Command) → Workflow → σ → List (Footprint σ)
  | [], _, _ => []
  | (now, command) :: rest, w, s =>
    let (e, w', s') := attempt services now w command s
    ⟨e, w', s'⟩ :: footprints services rest w' s'

/-- Footprints are left by the events of a history. -/
theorem event_footprints (services : Services σ) (commands : List (Moment × Command)) :
    ∀ (w : Workflow) (s : σ),
      (footprints services commands w s).map Footprint.event = history services commands w s := by
  induction commands with
  | nil => exact fun w s => rfl
  | cons given rest ih =>
    intro w s
    exact congrArg (_ :: ·) (ih _ _)

section

variable {ρ ρ' : Type} (services : Services τ)
  (keeper : Moment → Record → StateM ρ (Except Fault Unit))
  (keeper' : Moment → Record → StateM ρ' (Except Fault Unit))

/-- One step leaves the same behind, whoever records it. -/
theorem attempt_seen (now : Moment) (w : Workflow) (command : Command) (world : τ) (kept : ρ)
    (kept' : ρ') :
    let a := attempt (services.recordedBy keeper) now w command (world, kept)
    let b := attempt (services.recordedBy keeper') now w command (world, kept')
    a.1 = b.1 ∧ a.2.1 = b.2.1 ∧ a.2.2.1 = b.2.2.1 := by
  obtain ⟨hanswer, hworld, hlog⟩ := perform_alike (recordedBy_alike services keeper keeper') now w
    command ((world, kept), []) ((world, kept'), []) ⟨rfl, rfl⟩
  unfold attempt
  dsimp only
  rw [hanswer, hlog]
  exact ⟨rfl, rfl, hworld⟩

/-- **Whoever keeps the records, every step leaves the same behind**: its outcome, the deployment
    with its stage, script, log and report, what was asked of others in which order, and the state
    that they are in.  So a trail that fails at some calls and a trail that never fails make no
    difference. -/
theorem footprints_seen (commands : List (Moment × Command)) (w : Workflow) (world : τ)
    (kept : ρ) (kept' : ρ') :
    (footprints (services.recordedBy keeper) commands w (world, kept)).map Footprint.seen
      = (footprints (services.recordedBy keeper') commands w (world, kept')).map
          Footprint.seen := by
  induction commands generalizing w world kept kept' with
  | nil => rfl
  | cons given rest ih =>
    obtain ⟨now, command⟩ := given
    obtain ⟨hevent, hworkflow, hworld⟩ :=
      attempt_seen services keeper keeper' now w command world kept kept'
    rcases ha : attempt (services.recordedBy keeper) now w command (world, kept)
      with ⟨e, w₁, world₁, kept₁⟩
    rcases hb : attempt (services.recordedBy keeper') now w command (world, kept')
      with ⟨e', w₁', world₁', kept₁'⟩
    -- the step ends in one state of the world, whatever has been kept
    rw [ha, hb] at hevent hworkflow hworld
    dsimp only at hevent hworkflow hworld
    subst hevent hworkflow hworld
    simp only [footprints, ha, hb, List.map_cons]
    exact congrArg (_ :: ·) (ih w₁ world₁ kept₁ kept₁')

end

end Workflow

end ScriptGate.Deployment
