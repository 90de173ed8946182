import Courier.Proofs.Confirm.Numbering
import Courier.Proofs.Link.Generation

/-!
# The lanes of a link

Every channel instance of a link is a lane in a run of its own, in which the other instances are the
others that share the tracker (`Link.lanes_after`): they keep to other keys, since no two instances
share a name. So all that holds along every run of a lane holds of the channels of a link.
-/

namespace Courier
set_option autoImplicit false
open Confirm

variable {σ : Type}

namespace Confirm.Run

variable {key : String} {window : Nat} {r : Run}

/-- What others do under other keys, one operation after the other. -/
theorem Reachable.others (reached : Reachable key window r) {ops : List Tracker.Op}
    (apart : ∀ op ∈ ops, op.channel ≠ key) : Reachable key window (ops.foldl Run.elsewhere r) := by
  induction ops generalizing r with
  | nil => exact reached
  | cons op ops ih =>
    obtain ⟨first, rest⟩ := List.forall_mem_cons.1 apart
    exact ih (reached.elsewhere op first) rest

theorem desk_others (r : Run) (ops : List Tracker.Op) :
    (ops.foldl Run.elsewhere r).desk =
      { r.desk with tracker := ops.foldl Tracker.act r.desk.tracker } := by
  induction ops generalizing r with
  | nil => rfl
  | cons op ops ih => exact ih (r.elsewhere op)

/-- The lane of a desk has come this far, on the tracker as it is. -/
def Reaches (key : String) (window : Nat) (d : Desk) : Prop :=
  ∃ r, Reachable key window r ∧ r.desk.bare = d

namespace Reaches

variable {d : Desk}

theorem own (reaches : Reaches key window d) (m : Move) : Reaches key window (d.act m).bare := by
  obtain ⟨r, reached, rfl⟩ := reaches
  refine ⟨r.own m, reached.own m, ?_⟩
  show (r.desk.act m).bare = _
  rw [r.desk.act_bare m]
  rfl

theorem elsewhere (reaches : Reaches key window d) {op : Tracker.Op} (apart : op.channel ≠ key) :
    Reaches key window { d with tracker := d.tracker.act op } := by
  obtain ⟨r, reached, rfl⟩ := reaches
  exact ⟨r.elsewhere op, reached.elsewhere op apart, rfl⟩

/-- A lane that is new, where others were before. -/
theorem new (key : String) (window : Nat) {ops : List Tracker.Op}
    (apart : ∀ op ∈ ops, op.channel ≠ key) :
    Reaches key window ⟨.new key window, Tracker.after ops, [], []⟩ := by
  refine ⟨_, Reachable.start.others apart, ?_⟩
  rw [desk_others]
  rfl

end Reaches
end Confirm.Run

namespace Link

/-- The lane of every instance is in a run with the window that was asked for, and all that was done
to the tracker was done under the names of instances. -/
structure Laned (asks : String → ChannelOptions → Prop) (link : Link σ) : Prop where
  lanes : ∀ (i : Nat) (c : Channel), link.instances[i]? = some c →
    ∃ options, asks c.key options ∧ Run.Reaches c.lane.key options.window (link.desk c)
  tracked : ∃ ops, link.tracker = Tracker.after ops ∧
    ∀ op ∈ ops, ∃ (i : Nat) (c : Channel),
      link.instances[i]? = some c ∧ op.channel = c.lane.key

variable {asks : String → ChannelOptions → Prop} {moves : String → Move → Prop}
  {link link' : Link σ} {i : Nat} {c : Channel}

theorem Effect.tracked (effect : Effect asks moves link link') (laned : link.Laned asks) :
    ∃ ops, link'.tracker = Tracker.after ops ∧
      ∀ op ∈ ops, ∃ (i : Nat) (c : Channel),
        link'.instances[i]? = some c ∧ op.channel = c.lane.key := by
  obtain ⟨ops, tracker, under⟩ := laned.tracked
  have still (op : Tracker.Op) (i : Nat) (c : Channel) (found : link.instances[i]? = some c)
      (named : op.channel = c.lane.key) : ∃ (i : Nat) (c : Channel),
        link'.instances[i]? = some c ∧ op.channel = c.lane.key := by
    obtain ⟨lane, stays, same⟩ := effect.stays found
    exact ⟨i, _, stays, named.trans same.symm⟩
  have old (op : Tracker.Op) (mem : op ∈ ops) : ∃ (i : Nat) (c : Channel),
      link'.instances[i]? = some c ∧ op.channel = c.lane.key := by
    obtain ⟨i, c, found, named⟩ := under op mem
    exact still op i c found named
  cases effect with
  | idle | forgot | made | aborted => exact ⟨ops, tracker, old⟩
  | @moved i c m found allowed =>
    obtain same | ⟨op, named, done⟩ := (link.desk c).tracker_act m
    · exact ⟨ops, same.trans tracker, old⟩
    · refine ⟨ops ++ [op], ?_, fun op' mem => ?_⟩
      · show ((link.desk c).act m).tracker = (ops ++ [op]).foldl Tracker.act Tracker.empty
        rw [done, List.foldl_append]
        exact congrArg (Tracker.act · op) tracker
      · obtain mem | mem := List.mem_append.1 mem
        · exact old op' mem
        · cases List.mem_singleton.1 mem
          exact still op i c found named

theorem Laned.effect (laned : link.Laned asks) (sound : link.Sound)
    (effect : Effect asks moves link link') : link'.Laned asks := by
  have sound' : link'.Sound := sound.effect effect
  refine ⟨fun j c' found' => ?_, effect.tracked laned⟩
  have lanes := laned.lanes
  have stays {i : Nat} {c : Channel} (found : link.instances[i]? = some c) := effect.stays found
  cases effect with
  | idle | forgot | aborted => exact lanes j c' found'
  | @made key options allowed fits handle =>
    obtain found | ⟨last, new⟩ := getElem?_grown found'
    · exact lanes j c' found
    · -- nothing was done yet under the name of the new instance
      obtain ⟨ops, tracker, under⟩ := laned.tracked
      have apart (op : Tracker.Op) (mem : op ∈ ops) : op.channel ≠ c'.lane.key := by
        obtain ⟨i, c, found, named⟩ := under op mem
        obtain ⟨bound, _⟩ := List.getElem?_eq_some_iff.1 found
        obtain ⟨lane, found, same⟩ := stays found
        rw [named, ← same]
        exact (sound'.apart found found' (by omega)).2
      have reaches := Run.Reaches.new c'.lane.key options.window apart
      rw [← tracker] at reaches
      subst new
      exact ⟨options, allowed, reaches⟩
  | @moved i c m found allowed =>
    rw [getElem?_moved] at found'
    obtain ⟨c₀, known, rfl⟩ := Option.map_eq_some_iff.1 found'
    obtain ⟨options, asked, reaches⟩ := lanes j c₀ known
    split
    · next same =>
      subst same
      cases found.symm.trans known
      have own := reaches.own m
      have named : ((link.desk c).act m).lane.key = c.lane.key := (link.desk c).key_act m
      rw [← named] at own
      exact ⟨options, asked, own⟩
    · next other =>
      refine ⟨options, asked, ?_⟩
      obtain same | ⟨op, named, done⟩ := (link.desk c).tracker_act m
      · show Run.Reaches _ _ ⟨c₀.lane, ((link.desk c).act m).tracker, [], []⟩
        rw [same]
        exact reaches
      · show Run.Reaches _ _ ⟨c₀.lane, ((link.desk c).act m).tracker, [], []⟩
        rw [done]
        apply reaches.elsewhere
        rw [named]
        exact (sound.apart found known other).2

/-- Whatever has happened to a link, its instances are lanes in runs of their own. -/
theorem lanes_after (server : Server σ) (settings : Settings) (policy : RetryPolicy) (world : σ)
    {acts : List (Act σ)} (within : ∀ a ∈ acts, a.Within settings asks moves) :
    (after server acts (fresh settings policy world)).world.Laned asks := by
  have effects := effects_after server settings policy world within
  have start : (fresh settings policy world).world.Laned asks :=
    ⟨nofun, [], rfl, nofun⟩
  have both := effects.keep (P := fun link => link.Sound ∧ link.Laned asks)
    ⟨sound_fresh settings policy world, start⟩
    fun effect ⟨sound, laned⟩ => ⟨sound.effect effect, laned.effect sound effect⟩
  exact both.2

end Link

end Courier
