import Courier.Proofs.Publication.Enrichment
import Courier.Proofs.Reception.Standard

/-!
# Pipelines are onions

A layer acts on the way in, and then either ends the run with a result of its own or lets the rest
run once and acts on the way out, whatever came of the rest. A run goes in through layers from the
outermost and comes out from the innermost that let it pass, each acting once on either way; behind
a layer that ends the run nothing acts (`Pipeline.Course`, `Pipeline.run_layers`). Both pipelines
run so, on failures as on success (`Pipeline.in_and_out`), and their own stages are layers.
-/

namespace Courier.Pipeline
set_option autoImplicit false

variable {ι S R : Type}

/-! ## Layers -/

/-- A way out: what a layer makes of the result of the rest. -/
abbrev Exit (S R : Type) : Type := R → StateM S R

/-- What acts on the way in, and then ends the run with a result or goes on, with a way out for the
result of the rest. -/
structure Layer (ι S R : Type) where
  name : ι
  enter : StateM S (R ⊕ Exit S R)

/-- The stage of a layer. -/
def Layer.stage (l : Layer ι S R) : Stage (StateM S R) := fun rest => do
  match ← l.enter with
  | .inl result => return result
  | .inr exit => exit (← rest)

/-- One act of a run. -/
inductive Act (ι : Type) where
  | entered (name : ι)
  | last
  | left (name : ι)
  deriving DecidableEq

variable {l : Layer ι S R} {layers : List (Layer ι S R)} {last : StateM S R} {s t : S}

theorem Layer.stage_stopped {result : R} (stops : l.enter s = (.inl result, t))
    (rest : StateM S R) : l.stage rest s = (result, t) := by
  simp only [Layer.stage, bind, StateT.bind, stops]
  rfl

theorem Layer.stage_passed {exit : Exit S R} (passes : l.enter s = (.inr exit, t))
    (rest : StateM S R) : l.stage rest s = exit (rest t).1 (rest t).2 := by
  simp only [Layer.stage, bind, StateT.bind, passes]
  rfl

/-! ## The way in and the way out -/

/-- All layers let a run pass, which goes from one state to another and has these ways out, the one
of the innermost layer first. -/
inductive Passes : List (Layer ι S R) → S → List (Exit S R) → S → Prop
  | nil (s : S) : Passes [] s [] s
  | cons {l : Layer ι S R} {layers : List (Layer ι S R)} {s t u : S} {exit : Exit S R}
      {exits : List (Exit S R)} (passes : l.enter s = (.inr exit, t))
      (others : Passes layers t exits u) : Passes (l :: layers) s (exits ++ [exit]) u

/-- Takes ways out in turn, each with the result that the one before made. -/
def unwind (exits : List (Exit S R)) (out : R × S) : R × S :=
  exits.foldl (fun out exit => exit out.1 out.2) out

theorem unwind_concat (exits : List (Exit S R)) (exit : Exit S R) (out : R × S) :
    unwind (exits ++ [exit]) out = exit (unwind exits out).1 (unwind exits out).2 := by
  simp [unwind]

/-- What layers do on the way in. -/
def inward (layers : List (Layer ι S R)) : List (Act ι) := layers.map fun l => .entered l.name

/-- What layers do on the way out, the last one first. -/
def outward (layers : List (Layer ι S R)) : List (Act ι) :=
  layers.reverse.map fun l => .left l.name

/-- How a run may go, with its acts in order and how it ends: all layers let it pass, or one of them
ends it, the first that does. -/
inductive Course (layers : List (Layer ι S R)) (last : StateM S R) (s : S) :
    List (Act ι) → R × S → Prop
  | through {exits : List (Exit S R)} {t : S} (passes : Passes layers s exits t) :
      Course layers last s (inward layers ++ .last :: outward layers) (unwind exits (last t))
  | stopped {outer inner : List (Layer ι S R)} {l : Layer ι S R} {exits : List (Exit S R)}
      {t u : S} {result : R} (split : layers = outer ++ l :: inner) (passes : Passes outer s exits t)
      (stops : l.enter t = (.inl result, u)) :
      Course layers last s (inward outer ++ .entered l.name :: outward outer)
        (unwind exits (result, u))

/-- A layer that lets a run pass acts before it and after it. -/
theorem Course.within {acts : List (Act ι)} {out : R × S} {exit : Exit S R}
    (passes : l.enter s = (.inr exit, t)) (course : Course layers last t acts out) :
    Course (l :: layers) last s (.entered l.name :: acts ++ [.left l.name])
      (exit out.1 out.2) := by
  cases course with
  | through others =>
    have acts : inward (l :: layers) ++ .last :: outward (l :: layers)
        = .entered l.name :: (inward layers ++ .last :: outward layers) ++ [.left l.name] := by
      simp [inward, outward]
    rw [← acts, ← unwind_concat _ exit]
    exact .through (.cons passes others)
  | stopped split others stops =>
    rename_i outer inner stopping exits u v result
    have acts : inward (l :: outer) ++ .entered stopping.name :: outward (l :: outer)
        = .entered l.name :: (inward outer ++ .entered stopping.name :: outward outer)
          ++ [.left l.name] := by
      simp [inward, outward]
    rw [← acts, ← unwind_concat _ exit]
    exact .stopped (congrArg (l :: ·) split) (.cons passes others) stops

/-! ## Acts on record -/

/-- Each layer adds to a record what it does, and so does the last action; what the record is, is a
matter of the state. -/
structure Records (record : S → List (Act ι)) (layers : List (Layer ι S R)) (last : StateM S R) :
    Prop where
  entered : ∀ l ∈ layers, ∀ s, record (l.enter s).2 = record s ++ [.entered l.name]
  left : ∀ l ∈ layers, ∀ s exit t, l.enter s = (.inr exit, t) →
    ∀ result u, record (exit result u).2 = record u ++ [.left l.name]
  last : ∀ s, record (last s).2 = record s ++ [.last]

theorem Records.tail {record : S → List (Act ι)} (h : Records record (l :: layers) last) :
    Records record layers last where
  entered other mem := h.entered other (List.mem_cons_of_mem l mem)
  left other mem := h.left other (List.mem_cons_of_mem l mem)
  last := h.last

/-- A layer that notes its turns, and ends the run if it is given a result. -/
def Layer.noting (note : Act ι → S → S) (name : ι) (ending : Option R) : Layer ι S R where
  name
  enter s :=
    (match ending with
      | some result => .inl result
      | none => .inr fun result u => (result, note (.left name) u),
    note (.entered name) s)

/-- Layers that note their turns in a record have them on record. -/
theorem records_noting {record : S → List (Act ι)} {note : Act ι → S → S}
    (notes : ∀ act s, record (note act s) = record s ++ [act]) (named : List (ι × Option R))
    (result : R) :
    Records record (named.map fun (name, ending) => .noting note name ending)
      fun s => (result, note .last s) where
  entered l mem s := by
    obtain ⟨⟨name, ending⟩, -, rfl⟩ := List.mem_map.1 mem
    exact notes _ _
  left l mem s exit t entered result u := by
    obtain ⟨⟨name, ending⟩, -, rfl⟩ := List.mem_map.1 mem
    cases ending with
    | none =>
      cases entered
      exact notes _ _
    | some _ => cases entered
  last s := notes _ _

/-- How a run comes out: it took a course, whose acts are what it left on record. -/
def Onion (layers : List (Layer ι S R)) (last : StateM S R) (s : S) (out : R × S) : Prop :=
  ∃ acts, Course layers last s acts out ∧ ∀ record : S → List (Act ι),
    Records record layers last → record out.2 = record s ++ acts

theorem run_layers (layers : List (Layer ι S R)) (last : StateM S R) (s : S) :
    Onion layers last s (run (layers.map Layer.stage) last s) := by
  induction layers generalizing s with
  | nil => exact ⟨[.last], .through (.nil s), fun record h => h.last s⟩
  | cons l layers ih =>
    rw [List.map_cons, run_cons]
    cases entered : l.enter s with
    | mk onward t =>
      cases onward with
      | inl result =>
        rw [Layer.stage_stopped entered]
        refine ⟨[.entered l.name], .stopped (List.nil_append _).symm (.nil s) entered, ?_⟩
        intro record h
        rw [← h.entered l List.mem_cons_self s, entered]
      | inr exit =>
        rw [Layer.stage_passed entered]
        obtain ⟨acts, course, recorded⟩ := ih t
        refine ⟨_, course.within entered, fun record h => ?_⟩
        have first := h.entered l List.mem_cons_self s
        rw [entered] at first
        rw [h.left l List.mem_cons_self s exit t entered, recorded record h.tail, first]
        simp

/-! ## The stages there are -/

/-- A stage that is one of a layer. -/
def Layered (stage : Stage (StateM S R)) : Prop := ∃ l : Layer Unit S R, l.stage = stage

/-- A stage is one of a layer if in every state it ends the run or lets the rest run once. -/
theorem layered_of {stage : Stage (StateM S R)}
    (h : ∀ s, (∃ out, ∀ rest, stage rest s = out) ∨
      ∃ t, ∃ exit : Exit S R, ∀ rest, stage rest s = exit (rest t).1 (rest t).2) :
    Layered stage := by
  have entry (s : S) : ∃ out : (R ⊕ Exit S R) × S, ∀ rest, stage rest s =
      match out with
      | (.inl result, t) => (result, t)
      | (.inr exit, t) => exit (rest t).1 (rest t).2 := by
    obtain ⟨⟨result, t⟩, ended⟩ | ⟨t, exit, passed⟩ := h s
    · exact ⟨(.inl result, t), ended⟩
    · exact ⟨(.inr exit, t), passed⟩
  obtain ⟨enter, entered⟩ := Classical.skolem.1 entry
  refine ⟨⟨(), enter⟩, funext fun rest => funext fun s => ?_⟩
  rw [entered s rest]
  rcases onward : enter s with ⟨result | exit, t⟩
  · exact Layer.stage_stopped onward rest
  · exact Layer.stage_passed onward rest

end Courier.Pipeline

namespace Courier
set_option autoImplicit false
open Pipeline Acting

variable {ι σ : Type}

theorem Publication.layered_standard :
    ∀ stage ∈ (Publication.standard : List (Publication.Stage σ)),
      Layered (S := Publication σ) (R := Except MessagingError Unit) stage := by
  intro stage mem
  rcases List.mem_cons.1 mem with rfl | mem
  · refine layered_of fun p => ?_
    by_cases valid : p.message.violations = []
    · exact .inr ⟨p, fun r u => (r, u), fun _ => validation_valid valid⟩
    · exact .inl ⟨_, fun _ => validation_invalid valid⟩
  rcases List.mem_cons.1 mem with rfl | mem
  · refine layered_of fun p => ?_
    cases unknown : p.message.id.isNil with
    | false => exact .inr ⟨p, fun r u => (r, u), fun _ => enrichment_known unknown⟩
    | true =>
      cases caused : p.flow.setCause p.supply.drawId.1 with
      | ok made => exact .inr ⟨_, fun r u => (r, u), fun _ => enrichment_caused unknown caused⟩
      | error e => exact .inl ⟨_, fun _ => enrichment_refused unknown caused⟩
  · cases mem

theorem Reception.layered_extraction :
    Layered (S := Reception σ) (R := Except MessagingError Unit) Reception.extraction := by
  refine layered_of fun r => ?_
  cases decoded : Envelope.decode r.body with
  | ok e => exact .inr ⟨_, fun r u => (r, u), fun _ => extraction_run decoded⟩
  | error e => exact .inl ⟨_, fun _ => extraction_fails decoded⟩

theorem Reception.layered_resolution (registry : Registry) :
    Layered (S := Reception σ) (R := Except MessagingError Unit) (resolution registry) := by
  refine layered_of fun r => ?_
  cases extracted : r.envelope with
  | none =>
    refine .inl ⟨(.error (.pipelineState "type resolution"), r), fun rest => ?_⟩
    show (resolution registry rest).run r = _
    unfold resolution
    rw [get_bind, show r.messageType = none from congrArg _ extracted]
    rfl
  | some e =>
    cases resolved : registry.resolve e.messageType with
    | none => exact .inl ⟨_, fun _ => resolution_fails extracted resolved⟩
    | some _ => exact .inr ⟨_, fun r u => (r, u), fun _ => resolution_run extracted resolved⟩

theorem Reception.layered_decoding :
    Layered (S := Reception σ) (R := Except MessagingError Unit) Reception.decoding := by
  refine layered_of fun r => ?_
  cases extracted : r.envelope with
  | none =>
    refine .inl ⟨(.error (.pipelineState "payload deserialization"), r), fun rest => ?_⟩
    show (decoding rest).run r = _
    unfold decoding
    rw [get_bind, extracted]
    rfl
  | some e =>
    cases found : r.registration with
    | none =>
      refine .inl ⟨(.error (.pipelineState "payload deserialization"), r), fun rest => ?_⟩
      show (decoding rest).run r = _
      unfold decoding
      rw [get_bind, extracted, found]
      rfl
    | some registration =>
      cases read : registration.message e.payload with
      | ok m => exact .inr ⟨_, fun r u => (r, u), fun _ => decoding_run extracted found read⟩
      | error cause => exact .inl ⟨_, fun _ => decoding_fails extracted found read⟩

/-- The stage of the scope has a way out, which closes it. -/
theorem Reception.layered_scoping (opening : Work σ (Scope σ)) :
    Layered (S := Reception σ) (R := Except MessagingError Unit) (scoping opening) := by
  refine layered_of fun r => ?_
  cases known : r.context with
  | none =>
    refine .inl ⟨(.error (.pipelineState "handler scope"), r), fun rest => ?_⟩
    show (scoping opening rest).run r = _
    unfold scoping
    rw [get_bind, known]
    rfl
  | some context =>
    exact .inr ⟨_, fun r u => (r, { u with scope := none }), fun _ => scoping_run opening known⟩

theorem Reception.layered_standard (registry : Registry) (opening : Work σ (Scope σ)) :
    ∀ stage ∈ Reception.standard registry opening,
      Layered (S := Reception σ) (R := Except MessagingError Unit) stage := by
  simp only [standard, List.forall_mem_cons]
  exact ⟨layered_extraction, layered_resolution registry, layered_decoding,
    layered_scoping opening, List.forall_mem_nil _⟩

/-! ## Both pipelines -/

/-- What is added to a pipeline, layer by layer. -/
def Pipeline.assembled {S R : Type} (layers : List (Layer ι S R)) : List (Stage (StateM S R)) :=
  (layers.map Layer.stage).foldl add []

/-- Both pipelines are onions: a run acts through the layers in the order in which they were added,
up to the last action or the first layer that ends it, and then through those it has passed, from
the innermost to the outermost. What it results in is what the last action or the layer that ended
the run made, as the layers it comes out through make it. -/
theorem Pipeline.in_and_out :
    (∀ (layers : List (Layer ι (Publication σ) (Except MessagingError Unit)))
      (last : Publication.Step σ Unit) (p : Publication σ),
      Onion layers last p ((run (assembled layers) last : Publication.Step σ Unit).run p)) ∧
    (∀ (layers : List (Layer ι (Reception σ) (Except MessagingError Unit)))
      (last : Reception.Step σ Unit) (r : Reception σ),
      Onion layers last r (Reception.run (assembled layers) last r)) := by
  have added {S R : Type} (layers : List (Layer ι S R)) :
      assembled layers = layers.map Layer.stage := foldl_add [] _
  constructor
  · intro layers last p
    rw [added]
    exact run_layers layers last p
  · intro layers last r
    rw [added]
    exact run_layers layers last r

/-- Of three layers the second ends the run with a failure, and the first comes out. -/
theorem Pipeline.in_and_out_stopped :
    let note (act : Act Nat) (r : Reception (List (Act Nat))) : Reception (List (Act Nat)) :=
      { r with around := { r.around with world := r.around.world ++ [act] } }
    let layers : List (Layer Nat (Reception (List (Act Nat))) (Except MessagingError Unit)) :=
      [(1, none), (2, some (.error .cancelled)), (3, none)].map
        fun (name, ending) => .noting note name ending
    let last : Reception.Step (List (Act Nat)) Unit := fun r => (.ok (), note .last r)
    let start : Reception (List (Act Nat)) := { body := [], around := { world := [] } }
    let out := Reception.run (assembled layers) last start
    Records (fun r => r.around.world) layers last ∧ out.1 = .error .cancelled ∧
      out.2.around.world = [.entered 1, .entered 2, .left 1] ∧
      Course layers last start out.2.around.world out := by
  intro note layers last start out
  have recorded : Records (fun r => r.around.world) layers last :=
    records_noting (fun _ _ => rfl) _ _
  obtain ⟨acts, course, left⟩ := in_and_out.2 layers last start
  have acted : out.2.around.world = acts := left (fun r => r.around.world) recorded
  refine ⟨recorded, rfl, rfl, ?_⟩
  rw [acted]
  exact course

end Courier
