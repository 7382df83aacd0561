import RouteDocs.Proofs.Document.BodyFields
import RouteDocs.Proofs.Schema.Origins

/-!
How the body of a request is sent. The media type is chosen by the fields before they become a
tree; it is the one for files exactly if the tree has a file in it, as long as no field takes the
place of another one.
-/

namespace RouteDocs

open RouteDocs.Action (after)
open RouteDocs.Schema (Node)

namespace Document

variable {s : Rule.Setting}

theorem ne_nil_of_readFields {route : Nat} {inBody : Bool} {rules : FieldRules} {run last : Run}
    {fields : List Field} (nonempty : rules ≠ [])
    (read : after (readFields s route inBody rules) run = (.ok fields, last)) : fields ≠ [] := by
  obtain ⟨rule, rest, rfl⟩ := List.exists_cons_of_ne_nil nonempty
  rw [readFields, List.zipIdx_cons, List.mapM_cons] at read
  obtain ⟨f, _, _, read⟩ := Action.after_bind_ok read
  obtain ⟨others, _, _, read⟩ := Action.after_bind_ok read
  cases read
  exact List.cons_ne_nil f others

theorem mediaType_eq_multipart_iff {fields : List Field} {body : RequestBody}
    (made : bodyOf? fields = some body) :
    body.mediaType = multipartMedia ↔ ∃ f ∈ fields, f.type = some .file := by
  rw [bodyOf?] at made
  split at made
  · cases made
  · cases made
    dsimp only
    split
    · rename_i file
      simpa using file
    · rename_i none
      have other : jsonMedia ≠ multipartMedia := by decide
      simpa [other] using none

/-- A file in the tree has the body sent in parts. The converse needs fields of different names,
which they have as long as no rule object renames its field. -/
theorem multipart_iff_file {app : App} {route : Nat} {request : ClassName}
    {rules : FieldRules} {run last : Run} {fields : List Field}
    (declared : app.bodyRules request = .ok rules) (nonempty : rules ≠ [])
    (read : after (readFields s route true rules) run = (.ok fields, last)) :
    ∃ body, after (requestBody app s route request) run = (.ok (some body), last) ∧
      (body.schema.HoldsType .file → body.mediaType = multipartMedia) ∧
      ((fields.map Field.name).Nodup →
        (body.mediaType = multipartMedia ↔ body.schema.HoldsType .file)) ∧
      ((∀ rule ∈ rules, ∀ item ∈ rule.2.items, item.KeepsName) →
        fields.map Field.name = rules.map Prod.fst) := by
  obtain ⟨first, others, rfl⟩ := List.exists_cons_of_ne_nil (ne_nil_of_readFields nonempty read)
  obtain ⟨body, made⟩ : ∃ body, bodyOf? (first :: others) = some body := ⟨_, rfl⟩
  have schema : body.schema = Node.ofFields (first :: others) .string := by
    cases made
    rfl
  have file : body.schema.HoldsType .file → body.mediaType = multipartMedia := by
    rw [schema, mediaType_eq_multipart_iff made]
    intro holds
    rcases Node.sourced_ofFields holds with string | object | array | given
    · cases string
    · cases object
    · cases array
    · exact given
  refine ⟨body, ?_, file, fun distinct => ⟨fun multipart => ?_, file⟩, fun keep => ?_⟩
  · rw [after_requestBody declared read, made]
  · obtain ⟨f, member, gives⟩ := (mediaType_eq_multipart_iff made).mp multipart
    rw [schema]
    exact Node.holdsType_ofFields distinct .string member gives rfl
  · exact names_of_readFields keep read

/-! Bodies that are computed. -/

theorem exists_body_of_map {α : Type} {step : Action (Option RequestBody)} {run : Run}
    {f : RequestBody → α} {a : α}
    (computed : ((after step run).1.toOption.bind id).map f = some a) :
    ∃ body last, after step run = (.ok (some body), last) ∧ f body = a := by
  cases ran : after step run with
  | mk result last =>
      rw [ran] at computed
      obtain ⟨body, found, same⟩ := Option.map_eq_some_iff.mp computed
      obtain ⟨_, succeeded, rfl⟩ := Option.bind_eq_some_iff.mp found
      cases result with
      | error failure => cases succeeded
      | ok read =>
          cases succeeded
          exact ⟨body, last, rfl, same⟩

/-! A file below a wildcard. -/

def scanRequest : ClassName := ⟨"shop", "ScanRequest"⟩

def scanRules : FieldRules :=
  [("docs.*.scan", .text "file|max:10"), ("docs", .text "array"), ("docs.*.title", .text "string")]

def scans : App where
  ownClasses := [{ name := scanRequest, parent := some Contract.requestName, rules := some scanRules }]

theorem keepsName_scanRules : ∀ rule ∈ scanRules, ∀ item ∈ rule.2.items, item.KeepsName := by
  simp only [scanRules, List.forall_mem_cons]
  exact ⟨(Rule.Written.text _).keepsName, (Rule.Written.text _).keepsName,
    (Rule.Written.text _).keepsName, nofun⟩

theorem scans_sent_in_parts :
    scans.bodyRules scanRequest = .ok scanRules ∧ scanRules ≠ [] ∧
      (∀ rule ∈ scanRules, ∀ item ∈ rule.2.items, item.KeepsName) ∧
      ∃ fields last body, after (readFields listSetting 0 true scanRules) {} = (.ok fields, last) ∧
        (fields.map Field.name).Nodup ∧
        after (requestBody scans listSetting 0 scanRequest) {} = (.ok (some body), last) ∧
        body.mediaType = multipartMedia ∧ body.schema.HoldsType .file := by
  have declared : scans.bodyRules scanRequest = .ok scanRules := rfl
  have nonempty : scanRules ≠ [] := by simp [scanRules]
  have readable : (after (readFields listSetting 0 true scanRules) {}).1.isOk = true := by
    decide +kernel
  have computed :
      ((after (requestBody scans listSetting 0 scanRequest) {}).1.toOption.bind id).map
        RequestBody.mediaType = some multipartMedia := by decide +kernel
  obtain ⟨body, last, made, multipart⟩ := exists_body_of_map computed
  refine ⟨declared, nonempty, keepsName_scanRules, ?_⟩
  cases read : after (readFields listSetting 0 true scanRules) {} with
  | mk result final =>
      rw [read] at readable
      cases result with
      | error failure => cases readable
      | ok fields =>
          obtain ⟨_, same, _, agree, named⟩ := multipart_iff_file declared nonempty read
          cases made.symm.trans same
          have distinct : (fields.map Field.name).Nodup := by
            rw [named keepsName_scanRules]
            decide
          exact ⟨fields, last, body, rfl, distinct, made, multipart, (agree distinct).mp multipart⟩

/-! A rule object that gives its field the name of another one. -/

def avatarRequest : ClassName := ⟨"shop", "AvatarRequest"⟩

def avatarRules : FieldRules :=
  [("avatar", .text "file"),
   ("picture", .custom { label := "Renamed", adjustments := [.name "avatar", .type (some .string)] })]

def avatars : App where
  ownClasses :=
    [{ name := avatarRequest, parent := some Contract.requestName, rules := some avatarRules }]

theorem displaced_file_sent_in_parts :
    avatars.bodyRules avatarRequest = .ok avatarRules ∧ (avatarRules.map Prod.fst).Nodup ∧
      ∃ body last, after (requestBody avatars listSetting 0 avatarRequest) {} =
          (.ok (some body), last) ∧
        body.mediaType = multipartMedia ∧ ¬ body.schema.HoldsType .file := by
  have computed :
      ((after (requestBody avatars listSetting 0 avatarRequest) {}).1.toOption.bind id).map
        (fun body => (body.mediaType, decide (body.schema.HoldsType .file))) =
          some (multipartMedia, false) := by decide +kernel
  obtain ⟨body, last, made, found⟩ := exists_body_of_map computed
  obtain ⟨multipart, none⟩ := Prod.mk.inj found
  exact ⟨rfl, by decide, body, last, made, multipart, of_decide_eq_false none⟩

end Document
end RouteDocs
