import QueryRewriting.Proofs.Rewriting.Stack

/-! The inquiries of a walk: each time that a hook is asked, what it sees and what it answers. The
journal of a context only says that a hook was consulted; the record of a walk has its inquiries,
and `recorded_run` says that these are the consultations that its journal tells of. -/
namespace QueryRewriting.Rewriting

namespace Inquiry

/-- The entry in the journal for an inquiry. -/
def consultation (inquiry : Inquiry) : Consultation :=
  { point := inquiry.point, hook := inquiry.hook, frame := inquiry.context.frame,
    depth := inquiry.context.depth }

/-- Whether a sourcer is asked. -/
def isSourcing (inquiry : Inquiry) : Bool := inquiry.point matches .source _

end Inquiry

/-- The inquiries that a journal tells of: each one has seen the journal of those before it, with
its own consultation as the latest entry. -/
inductive Told : List Inquiry → List Consultation → Prop
  | none : Told [] []
  | more {inquiry : Inquiry} {earlier : List Inquiry} {journal : List Consultation} :
    Told earlier journal → inquiry.context.journal = inquiry.consultation :: journal →
      Told (inquiry :: earlier) inquiry.context.journal

theorem Told.journal_eq {inquiries : List Inquiry} {journal : List Consultation}
    (told : Told inquiries journal) : journal = inquiries.map Inquiry.consultation := by
  induction told with
  | none => rfl
  | more _ latest ih => rw [latest, ih, List.map_cons]

/-- The latest inquiry has seen the whole journal. -/
theorem Told.latest {inquiry : Inquiry} {earlier : List Inquiry} {journal : List Consultation}
    (told : Told (inquiry :: earlier) journal) : journal = inquiry.context.journal := by
  cases told
  rfl

/-- Whether the record is what the journal tells of. -/
def Recording.Faithful (recording : Recording) : Prop :=
  Told recording.inquiries recording.context.journal

theorem Recording.Faithful.of_journal {recording other : Recording} (faithful : recording.Faithful)
    (asked : other.inquiries = recording.inquiries)
    (noted : other.context.journal = recording.context.journal) : other.Faithful := by
  unfold Faithful
  rw [asked, noted]
  exact faithful

/-- A walk keeps its record and its journal together. -/
def telling (registry : Registry) : Conduct registry where
  leads before after := before.Faithful → after.Faithful
  inside before after := before.Faithful → after.Faithful
  refl _ := id
  trans early late faithful := late (early faithful)
  rebuilt _ _ _ := id
  logged _ _ := id
  inside_refl _ := id
  leads_inside early late faithful := late (early faithful)
  inside_leads early late faithful := late (early faithful)
  asked _ _ faithful := Told.more faithful rfl
  replaced replaced faithful := faithful.of_journal rfl (by rw [Context.replace_frames replaced])
  framed pushed within faithful :=
    have entered := within (faithful.of_journal rfl (by rw [Context.push_frames pushed]))
    entered.of_journal rfl (Context.journal_pop _)
  substituted within faithful := within faithful
  rooted _ _ := id

/-- A walk comes to the same with its record as without, in the same state, and the record of a
walk that begins without a journal is what its journal tells of. -/
theorem recorded_run (registry : Registry) (query : Expr) (context : Context) (ambient : Ambient) :
    run registry query context ambient =
        ((recorded registry query context ambient).1,
          (recorded registry query context ambient).2.toState) ∧
      (context.journal = [] → (recorded registry query context ambient).2.Faithful) := by
  refine ⟨rfl, fun fresh => (telling registry).leads_recorded query context ambient ?_⟩
  unfold Recording.Faithful
  rw [fresh]
  exact .none

end QueryRewriting.Rewriting
