import RelayDesk.Action.Envelope
import RelayDesk.Proofs.Json.Nesting
import RelayDesk.Proofs.Json.Spelt

/-!
Requests read from texts that somebody else wrote.  The members may stand in any order and be spelt
in any way, with blanks wherever an object may have them.  The params are read as they would be on
their own, as long as they leave room for the object around them.
-/

namespace RelayDesk
namespace Action

open Json (AllJsonBlank EndsNumeral Field IsMemberText Reads SpeltMember nestingLimit)

/-- The text of a value with blanks around it. -/
def IsPadded (text padded : String) : Prop :=
  ∃ before after, AllJsonBlank before ∧ AllJsonBlank after ∧
    padded.toList = before ++ text.toList ++ after

/-- The text of an object whose members are an action, the text of params and whether the bare
result is wanted. -/
def IsRequestText (action params : String) (resultsOnly : Bool) (text : String) : Prop :=
  ∃ actionPart paramsPart flagPart parts,
    IsMemberText "action" (fun x => Json.read x = .ok (.str action)) actionPart ∧
    IsMemberText "params" (IsPadded params) paramsPart ∧
    IsMemberText resultsOnlyKey (fun x => Json.read x = .ok (.bool resultsOnly)) flagPart ∧
    List.Perm parts [actionPart, paramsPart, flagPart] ∧ Json.Shape.IsObjectText parts text

/-- Blanks around a value do not change what is read. -/
theorem IsPadded.reads {text padded : String} {v : Json} {n : Nat} (h : IsPadded text padded)
    (hread : Json.read text = .ok v)
    (hnests : Json.nestsWithin n .outside text.toList = true) {rest : List Char}
    (hrest : EndsNumeral rest) :
    ∃ blanks, AllJsonBlank blanks ∧
      Reads (Json.readValue n) (padded.toList ++ rest) v (blanks ++ rest) := by
  obtain ⟨before, after, hbefore, hafter, hpadded⟩ := h
  obtain ⟨blanks, hblanks, hvalue⟩ :=
    Json.reads_inner_of_read hread hnests (hafter.endsNumeral_append hrest)
  refine ⟨blanks ++ after, List.forall_mem_append.mpr ⟨hblanks, hafter⟩, fun place => ?_⟩
  obtain ⟨start, hskip⟩ :=
    Json.readValue_blanks hbefore n (text.toList ++ (after ++ rest)) place
  obtain ⟨next, hvalue⟩ := hvalue start
  refine ⟨next, ?_⟩
  simp only [hpadded, List.append_assoc]
  rw [hskip, hvalue]

namespace Request

/-- The text of such an object is read as the request. -/
theorem read_of_isRequestText {action params text : String} {v : Json} {resultsOnly : Bool}
    (hparams : Json.read params = .ok v)
    (hnests : Json.nestsWithin (nestingLimit - 1) .outside params.toList = true)
    (htext : IsRequestText action params resultsOnly text) :
    read text = .ok { action, params := v, resultsOnly } := by
  obtain ⟨actionPart, paramsPart, flagPart, parts, haction, hvalue, hflag, hperm, hobject⟩ := htext
  obtain ⟨a, rfl, hafield, haset, ha⟩ := haction.exists_spelt (f := .of "action" true _ _)
    (s := shape) rfl fun x hx => Field.takesText_of fun rest hrest =>
      Json.reads_text_of_read hx "a string" hrest.endsNumeral
  obtain ⟨p, rfl, hpfield, hpset, hp⟩ := hvalue.exists_spelt (f := .of "params" false _ _)
    (s := shape) rfl fun x hx => Field.takesText_of fun rest hrest =>
      hx.reads hparams hnests hrest.endsNumeral
  obtain ⟨r, rfl, hrfield, hrset, hr⟩ := hflag.exists_spelt (f := .of resultsOnlyKey false _ _)
    (s := shape) rfl fun x hx => Field.takesText_of fun rest hrest =>
      Json.reads_bool_of_read hx hrest.endsNumeral
  have hparts : parts.Perm ([a, p, r].map (·.chars)) := hperm
  have hreads : ∀ m ∈ [a, p, r], m.ReadsIn shape (nestingLimit - 1) := by
    simp only [List.forall_mem_cons]
    exact ⟨ha, hp, hr, nofun⟩
  have hnames : [a, p, r].map (·.field.name) = ["action", "params", resultsOnlyKey] := by
    rw [List.map_cons, List.map_cons, List.map_cons, hafield, hpfield, hrfield]
    rfl
  have honce : ["action", "params", resultsOnlyKey].Nodup := by decide
  have hall : ∀ f ∈ shape.fields, f.required = true →
      f.name ∈ ["action", "params", resultsOnlyKey] := by decide
  have hcomm : [a, p, r].Pairwise SpeltMember.Commutes := by
    simp [SpeltMember.Commutes, haset, hpset, hrset]
  rw [← hnames] at honce hall
  have hrecord : Json.recordOf [a, p, r] shape.blank = { action, params := v, resultsOnly } := by
    simp only [Json.recordOf, List.foldl_cons, List.foldl_nil, haset, hpset, hrset]
  rw [read, Json.Shape.readText_of_perm hobject hparts hreads honce hall hcomm, hrecord]

end Request
end Action
end RelayDesk
