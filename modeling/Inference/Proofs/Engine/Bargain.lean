/-
What an engine and its backend go by.

The engine goes by its descriptors.  The backend goes by the last input it took up and the
output it answered, or by those it began with; both can be told from the notes of what it was
asked.

Work under the lock changes the two together.  It fails to do so in one case only: the backend
takes up an input and answers with an output that cannot be used.  Then the work ends in that
failure and the descriptors stay, while the backend keeps what it took up.  `Terms.Next` lists what
can happen, and all work keeps to it, from `renegotiate_deals` up to `Part.submitTask_deals`;
naming tensors is not on the list, since names can add tensors to a descriptor without the backend
being asked.
-/
import Inference.Proofs.Engine.Terms
import Inference.Proofs.Tensor.Agreement

namespace Inference

variable {W α β : Type}

theorem Descriptor.isValid_iff {d : Descriptor} : d.isValid = true ↔ d.validate = .ok () := by
  unfold isValid validate
  cases d.defect? <;> simp

/-! ### Configurations -/

/-- What a backend goes by after a question.  Only an input that it took up makes a difference, and
of these only one whose output counts. -/
def Question.configure (counts : Descriptor → Bool) (now : Descriptor × Descriptor) :
    Question → Descriptor × Descriptor
  | adopt info (.done output) => if counts output then (info, output) else now
  | _ => now

/-- What a backend goes by after all that it was asked. -/
def configuration (counts : Descriptor → Bool) (first : Descriptor × Descriptor)
    (notes : List Question) : Descriptor × Descriptor :=
  notes.foldl (Question.configure counts) first

@[simp] theorem configuration_append (counts : Descriptor → Bool) (first : Descriptor × Descriptor)
    (notes : List Question) (question : Question) :
    configuration counts first (notes ++ [question])
      = question.configure counts (configuration counts first notes) := by
  simp [configuration]

/-- The question is no input that the backend took up. -/
def Question.isIdle : Question → Bool
  | adopt _ (.done _) => false
  | _ => true

theorem Question.configure_of_isIdle {question : Question} (idle : question.isIdle = true)
    (counts : Descriptor → Bool) (now : Descriptor × Descriptor) :
    question.configure counts now = now := by
  cases question with
  | adopt info answer =>
      cases answer with
      | done output => cases idle
      | _ => rfl
  | _ => rfl

/-- If every output counts that the backend has answered, all configurations are the same. -/
theorem configuration_congr {counts : Descriptor → Bool} {notes : List Question}
    (all : ∀ info output, .adopt info (.done output) ∈ notes → counts output = true)
    (first : Descriptor × Descriptor) :
    configuration counts first notes = configuration (fun _ => true) first notes := by
  induction notes generalizing first with
  | nil => rfl
  | cons question rest ih =>
      have same : question.configure counts first = question.configure (fun _ => true) first := by
        cases question with
        | adopt info answer =>
            cases answer with
            | done output => simp [Question.configure, all info output List.mem_cons_self]
            | _ => rfl
        | _ => rfl
      show configuration counts (question.configure counts first) rest = configuration _ _ rest
      rw [same]
      exact ih (fun info output member => all info output (List.mem_cons_of_mem _ member)) _

/-! ### Terms -/

/-- The descriptors of an engine, and the notes of its backend. -/
structure Terms where
  input : Descriptor
  output : Descriptor
  notes : List Question

/-- The terms of a host whose backend takes notes. -/
def Host.terms (host : Host W) (notes : W → List Question) : Terms :=
  ⟨host.desk.input, host.desk.output, notes host.world⟩

namespace Terms

/-- The descriptors agree with a configuration. -/
def Agree (terms : Terms) (configured : Descriptor × Descriptor) : Prop :=
  terms.input.agrees configured.1 = true ∧ terms.output.agrees configured.2 = true

/-- What a piece of work under the lock can do to the terms, and what it reports. -/
inductive Next (terms : Terms) (report : Option Fault) : Terms → Prop where
  | same : Next terms report terms
  | asked {question : Question} (idle : question.isIdle = true) :
      Next terms report { terms with notes := terms.notes ++ [question] }
  /-- An input of the same form is taken over without a question. -/
  | renamed {info : Descriptor} (agrees : info.agrees terms.input = true) :
      Next terms report { terms with input := info }
  | reshaped {info output : Descriptor} (valid : output.isValid = true) :
      Next terms report ⟨info, output, terms.notes ++ [.adopt info (.done output)]⟩
  /-- The backend took up an input, but its answer is of no use. -/
  | unusable {info output : Descriptor} {text : String} (invalid : output.isValid = false)
      (reported : report = some (.passFailed text)) :
      Next terms report { terms with notes := terms.notes ++ [.adopt info (.done output)] }

/-- Since the backend went by `started` and had these notes, the descriptors have followed the
inputs that it took up, as far as its outputs were usable. -/
def Follow (terms : Terms) (started : Descriptor × Descriptor) (before : List Question) : Prop :=
  ∃ asked, terms.notes = before ++ asked
    ∧ terms.Agree (configuration Descriptor.isValid started asked)

theorem Next.follow {terms after : Terms} {report : Option Fault}
    {started : Descriptor × Descriptor} {before : List Question} (next : terms.Next report after)
    (h : terms.Follow started before) : after.Follow started before := by
  obtain ⟨asked, noted, agree⟩ := h
  have further (question : Question) :
      terms.notes ++ [question] = before ++ (asked ++ [question]) := by
    rw [noted, List.append_assoc]
  cases next with
  | same => exact ⟨asked, noted, agree⟩
  | asked idle =>
      refine ⟨_, further _, ?_⟩
      rw [configuration_append, Question.configure_of_isIdle idle]
      exact agree
  | renamed agrees => exact ⟨asked, noted, Descriptor.agrees_trans agrees agree.1, agree.2⟩
  | reshaped valid =>
      refine ⟨_, further _, ?_⟩
      rw [configuration_append, Question.configure, if_pos valid]
      exact ⟨Descriptor.agrees_refl _, Descriptor.agrees_refl _⟩
  | unusable invalid =>
      refine ⟨_, further _, ?_⟩
      rw [configuration_append, Question.configure, if_neg (by rw [invalid]; nofun)]
      exact agree

/-- An answer that is of no use is reported, and the descriptors stay. -/
theorem Next.reported {terms after : Terms} {report : Option Fault} (next : terms.Next report after)
    {info output : Descriptor} (noted : after.notes = terms.notes ++ [.adopt info (.done output)])
    (invalid : output.isValid = false) : after.input = terms.input ∧ after.output = terms.output
      ∧ ∃ text, report = some (.passFailed text) := by
  have nothing (same : terms.notes = terms.notes ++ [.adopt info (.done output)]) : False := by
    simpa using congrArg List.length same
  cases next with
  | same => exact (nothing noted).elim
  | asked idle =>
      cases List.singleton_inj.1 (List.append_cancel_left noted)
      cases idle
  | renamed => exact (nothing noted).elim
  | reshaped valid =>
      cases List.singleton_inj.1 (List.append_cancel_left noted)
      cases invalid.symm.trans valid
  | unusable _ reported => exact ⟨rfl, rfl, _, reported⟩

end Terms

theorem Host.SameTerms.terms {host after : Host W} {notes : W → List Question}
    (same : host.SameTerms after) (kept : host.engine.backend.Notes notes) :
    after.terms notes = host.terms notes := by
  unfold Host.terms
  rw [same.input, same.output, same.unasked notes kept]

/-! ### Work under the lock -/

/-- The fault that work ends with. -/
def Outcome.fault? : Outcome Fault α → Option Fault
  | failed fault => some fault
  | _ => none

/-- Work that changes the terms by one of these steps at most. -/
def Act.Deals (act : Act W α) (notes : W → List Question) (host : Host W) : Prop :=
  ∀ outcome after, act host = some (outcome, after) →
    (host.terms notes).Next outcome.fault? (after.terms notes)

section

variable {notes : W → List Question} {host : Host W}

/-- A backend that can be used is asked one question, and nothing else happens. -/
theorem useBackend_deals {use : Backend W → W → Outcome Fault α × W} {question : Question}
    (idle : question.isIdle = true)
    (noted : notes (use host.engine.backend host.world).2 = notes host.world ++ [question]) :
    (Act.useBackend use).Deals notes host := by
  intro outcome after h
  obtain ⟨fault, -, rfl⟩ | ⟨-, world, used, ends⟩ := Act.useBackend_cases h
  · exact .same
  have terms : after.terms notes = { host.terms notes with notes := notes world } := by
    obtain ⟨-, rfl⟩ | ⟨message, -, rfl⟩ := ends <;> rfl
  rw [used] at noted
  change notes world = _ at noted
  rw [terms, noted]
  exact .asked idle

/-- Negotiating another input keeps to the terms, or reports that it does not. -/
theorem renegotiate_deals (kept : host.engine.backend.Notes notes) (info : Descriptor) :
    (renegotiate info).Deals notes host := by
  intro outcome after h
  have noted {answer : Outcome Fault Descriptor} {world : W}
      (adopted : host.engine.backend.adopt info host.world = (answer, world)) :
      notes world = notes host.world ++ [.adopt info answer] := by
    have noted := kept.adopt info host.world
    rwa [adopted] at noted
  cases renegotiate_cases h with
  | busy | unasked => exact .same
  | renamed _ agrees => exact .renamed agrees
  | @refused _ world _ _ _ adopted =>
      show (host.terms notes).Next _ { host.terms notes with notes := notes world }
      rw [noted adopted]
      exact .asked rfl
  | @useless output _ world _ _ _ adopted invalid =>
      -- The backend keeps the input from here on, whatever its output is worth.
      have useless : output.isValid = false := by
        cases usable : output.isValid with
        | false => rfl
        | true => cases (Descriptor.isValid_iff.1 usable).symm.trans invalid
      show (host.terms notes).Next _ { host.terms notes with notes := notes world }
      rw [noted adopted]
      exact .unusable useless rfl
  | @reshaped output world _ _ _ adopted valid =>
      show (host.terms notes).Next _ ⟨info, output, notes world⟩
      rw [noted adopted]
      exact .reshaped (Descriptor.isValid_iff.2 valid)
  | @crashed _ world _ _ adopted =>
      show (host.terms notes).Next _ { host.terms notes with notes := notes world }
      rw [noted adopted]
      exact .asked rfl

theorem deals_map {act : Act W α} (deals : act.Deals notes host) (f : α → β) :
    (do return f (← act) : Act W β).Deals notes host := by
  intro outcome after h
  obtain ⟨value, middle, hact, hrest⟩ | ⟨fault, hact, rfl⟩ | ⟨message, hact, rfl⟩ :=
    Act.bind_cases h
  · cases hrest
    exact deals (.done value) _ hact
  · exact deals (.failed fault) _ hact
  · exact deals (.crashed message) _ hact

theorem readProperty_deals (kept : host.engine.backend.Notes notes) (key : String) :
    (Act.readProperty key).Deals notes host := by
  intro outcome after h
  obtain ⟨-, rfl⟩ | ⟨-, -, h⟩ := readProperty_cases h
  · exact .same
  · exact useBackend_deals rfl (kept.read key host.world) _ _ h

theorem editInput_deals (kept : host.engine.backend.Notes notes)
    (edited : Descriptor.Edited Unit) : (editInput edited).Deals notes host := by
  intro outcome after h
  obtain ⟨fault, -, rfl⟩ | ⟨-, -, h⟩ := editInput_cases h
  · exact .same
  · exact renegotiate_deals kept _ _ _ h

/-- Whether a key is that of the names of tensors. -/
def isNameKey (key : String) : Bool := key == "inputname" || key == "outputname"

theorem writeProperty_deals (kept : host.engine.backend.Notes notes) {key : String}
    (plain : isNameKey key = false) (value : String) :
    (Act.writeProperty key value).Deals notes host := by
  intro outcome after h
  simp only [isNameKey, Bool.or_eq_false_iff, beq_eq_false_iff_ne] at plain
  cases writeProperty_cases h with
  | refused | timeout => exact .same
  | edited _ ran => exact editInput_deals kept _ _ _ ran
  | inputNames _ name => exact absurd name plain.1
  | outputNames _ name => exact absurd name plain.2
  | foreign _ _ asked => exact useBackend_deals rfl (kept.write key value host.world) _ _ asked

end

/-! ### Submitting -/

theorem Host.cleared_sameTerms (host : Host W) : host.SameTerms host.cleared := by
  have forgotten (desk : Desk) : desk.forget.2.input = desk.input
      ∧ desk.forget.2.output = desk.output := by
    unfold Desk.forget
    split <;> exact ⟨rfl, rfl⟩
  exact (SameTerms.refl host).withDesk (forgotten _).1 (forgotten _).2

theorem Part.submitFitting_sameTerms {task : Task} {timeout : Nat} {host after : Host W}
    {outcome : Outcome Fault Call} (h : submitFitting task timeout host = some (outcome, after)) :
    host.SameTerms after := by
  rcases submitFitting_cases h with
    ⟨fault, -, rfl, -⟩ | ⟨-, -, ⟨dropped, drops, -, rfl⟩ | ⟨message, drops, -⟩⟩
  · exact .refl _
  · exact (host.cleared_sameTerms.trans drops.sameTerms).withDesk rfl rfl
  · exact host.cleared_sameTerms.trans drops.sameTerms

theorem Terms.Next.unreported {terms after : Terms} (next : terms.Next none after)
    (report : Option Fault) : terms.Next report after := by
  cases next with
  | same => exact .same
  | asked idle => exact .asked idle
  | renamed agrees => exact .renamed agrees
  | reshaped valid => exact .reshaped valid
  | unusable _ reported => cases reported

section

variable {notes : W → List Question} {host after : Host W}

theorem Host.SameTerms.next (same : host.SameTerms after) (kept : host.engine.backend.Notes notes)
    (report : Option Fault) : (host.terms notes).Next report (after.terms notes) := by
  rw [same.terms kept]
  exact .same

theorem Part.submitTask_deals (kept : host.engine.backend.Notes notes) (task : Task)
    (timeout : Nat) : (submitTask task timeout).Deals notes host := by
  intro outcome after h
  obtain ⟨-, h⟩ | ⟨info, -, -, ⟨middle, hshape, h⟩ | ⟨fault, rfl, hshape⟩
    | ⟨message, rfl, hshape⟩⟩ := submitTask_cases h
  · exact (submitFitting_sameTerms h).next kept _
  · have tuned : host.Tuned middle := renegotiate_tunes info host _ _ hshape
    have kept' : middle.engine.backend.Notes notes := by
      rw [tuned.alike.backend]
      exact kept
    rw [(submitFitting_sameTerms h).terms kept']
    exact (renegotiate_deals kept info _ _ hshape).unreported _
  · exact renegotiate_deals kept info _ _ hshape
  · exact renegotiate_deals kept info _ _ hshape

end

end Inference
