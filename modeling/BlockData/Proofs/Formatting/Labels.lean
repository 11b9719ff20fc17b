import BlockData.Node.Outline
import BlockData.Proofs.Formatting.SingleLines
import Mathlib.Data.List.Nodup

/-!
# Labels of nodes

The label of a node is the name of its kind and, behind a space, what tells nodes of that
kind apart. In a tree that is well formed a node holds a value that its kind admits
(`NodeKind.admits`), and then the label is written within a line (`label_isLine`) and
tells the kind and the value (`label_inj`).
-/

namespace BlockData

/-- Every kind of tokens is listed. -/
theorem Kind.mem_all (kind : Kind) : kind ∈ all := by
  cases kind with
  | value kind => cases kind <;> decide
  | terminator kind => cases kind <;> decide
  | opening delimiter => cases delimiter <;> decide
  | closing delimiter => cases delimiter <;> decide
  | trivia kind => cases kind <;> decide
  | _ => decide

namespace NodeKind

/-- A kind of nodes for each name. -/
def named : List NodeKind :=
  [.root, .program, .expression, .paramlist, .blank, .block .curly] ++ Kind.all.map .leaf

/-- Different kinds in the list have different names. -/
theorem nodup_map_name : (named.map name).Nodup := by
  decide

/-- The kind in the list that has the name of a kind. -/
def representative : NodeKind → NodeKind
  | .block _ => .block .curly
  | kind => kind

theorem name_representative (kind : NodeKind) : kind.representative.name = kind.name := by
  cases kind <;> rfl

theorem representative_mem_named (kind : NodeKind) : kind.representative ∈ named := by
  cases kind with
  | leaf kind => simp [representative, named, Kind.mem_all]
  | _ => simp [representative, named]

/-- The name of a kind tells the kind, but for the style of a block. -/
theorem representative_eq_of_name {left right : NodeKind} (same : left.name = right.name) :
    left.representative = right.representative := by
  refine List.inj_on_of_nodup_map nodup_map_name left.representative_mem_named
    right.representative_mem_named ?_
  rw [name_representative, name_representative, same]

/-- Kinds with the same representative are the same, or both are blocks. -/
theorem eq_or_blocks_of_representative {left right : NodeKind}
    (same : left.representative = right.representative) :
    left = right ∨ ∃ leftStyle rightStyle, left = .block leftStyle ∧ right = .block rightStyle := by
  cases left <;> cases right <;> simp_all [representative]

/-- Names are words of a line. -/
theorem name_isWord (kind : NodeKind) :
    ∀ c ∈ kind.name.toList, c ≠ ' ' ∧ isLineEnd c = false := by
  have checked : (named.all fun kind =>
      kind.name.toList.all fun c => c != ' ' && !isLineEnd c) = true := by
    decide
  rw [← name_representative]
  simpa using List.all_eq_true.mp checked _ kind.representative_mem_named

/-- Whether a node of a kind can hold a value. -/
def admits : NodeKind → Option Value → Bool
  | .leaf (.value kind), value => kind.admits value
  | .leaf .comment, some (.text content) => isCommentText content
  | .leaf _, _ => false
  | _, value => value.isNone

end NodeKind

namespace Node

/-- What a label says behind the name of the kind. -/
def labelDetail (kind : NodeKind) (value : Option Value) : List Char :=
  match kind, value with
  | .block delimiter, _ => ' ' :: delimiter.name.toList
  | .leaf (.value .string), some (.text content) => ' ' :: (quoteText content).toList
  | _, some value => ' ' :: value.display.toList
  | _, none => []

/-- A label is a name and what is said behind it. -/
theorem toList_label (kind : NodeKind) (value : Option Value) :
    (label kind value).toList = kind.name.toList ++ labelDetail kind value := by
  unfold label labelDetail
  split <;> simp [quoteText]

/-- What is said behind a name is apart from it. -/
theorem isDetached_labelDetail (kind : NodeKind) (value : Option Value) :
    IsDetached (labelDetail kind value) := by
  unfold labelDetail
  split <;> simp [IsDetached]

/-- Behind the name of a value its text is said, if there is a value. -/
theorem labelDetail_value : ∀ {kind : ValueKind} {value : Option Value} {text : String},
    kind.admits value = true → tokenText (.value kind) value = .ok text →
      labelDetail (.leaf (.value kind)) value = if value.isSome then ' ' :: text.toList else []
  | .integer, some (.integer _), _, _, rfl => rfl
  | .float, some (.float _), _, _, rfl => rfl
  | .string, some (.text _), _, _, rfl => rfl
  | .symbol, some (.text _), _, _, rfl => rfl
  | .operator, some (.text _), _, _, rfl => rfl
  | .colon, none, _, _, _ => rfl
  | .comma, none, _, _, _ => rfl
  | .period, none, _, _, _ => rfl

/-- What a label says behind the name is written within a line. -/
theorem labelDetail_isLine : ∀ {kind : NodeKind} {value : Option Value},
    kind.admits value = true → ∀ c ∈ labelDetail kind value, isLineEnd c = false
  | .leaf (.value kind), value, admitted => by
      obtain ⟨text, isText, -⟩ := leaf_readsAs admitted
      rw [labelDetail_value admitted isText]
      split
      · exact List.forall_mem_cons.mpr ⟨rfl, leaf_isLine admitted isText⟩
      · exact nofun
  | .leaf .comment, some (.text _), isComment =>
      List.forall_mem_cons.mpr ⟨rfl, comment_isLine isComment⟩
  | .block delimiter, none, _ => by cases delimiter <;> exact isLineEnd_of_all rfl
  | .root, none, _ => nofun
  | .program, none, _ => nofun
  | .expression, none, _ => nofun
  | .paramlist, none, _ => nofun
  | .blank, none, _ => nofun

/-- A label is written within a line. -/
theorem label_isLine {kind : NodeKind} {value : Option Value}
    (admitted : kind.admits value = true) :
    ∀ c ∈ (label kind value).toList, isLineEnd c = false := by
  intro c member
  rw [toList_label, List.mem_append] at member
  rcases member with member | member
  · exact (kind.name_isWord c member).2
  · exact labelDetail_isLine admitted c member

/-- The text of a value tells the value. -/
theorem tokenText_inj {kind : ValueKind} {left right : Option Value}
    (leftAdmitted : kind.admits left = true) (rightAdmitted : kind.admits right = true)
    (same : tokenText (.value kind) left = tokenText (.value kind) right) : left = right := by
  obtain ⟨text, isText, readsLeft⟩ := leaf_readsAs leftAdmitted
  obtain ⟨otherText, isOtherText, readsRight⟩ := leaf_readsAs rightAdmitted
  obtain rfl : text = otherText := by
    rw [isText, isOtherText] at same
    exact Except.ok.inj same
  have leftWords := (readsLeft [] nofun).words_append
  rw [(readsRight [] nofun).words_append] at leftWords
  exact (Word.mk.inj (List.cons.inj leftWords).1).2.symm

/-- What is said behind a name tells the value. -/
theorem value_eq_of_labelDetail : ∀ {kind : NodeKind} {left right : Option Value},
    kind.admits left = true → kind.admits right = true →
      labelDetail kind left = labelDetail kind right → left = right
  | .leaf (.value kind), left, right, leftAdmitted, rightAdmitted, same => by
      obtain ⟨text, isText, -⟩ := leaf_readsAs leftAdmitted
      obtain ⟨otherText, isOtherText, -⟩ := leaf_readsAs rightAdmitted
      rw [labelDetail_value leftAdmitted isText, labelDetail_value rightAdmitted isOtherText]
        at same
      rcases left with _ | leftValue <;> rcases right with _ | rightValue
      · rfl
      · cases same
      · cases same
      · have sameText : text = otherText := String.toList_inj.mp (List.cons.inj same).2
        exact tokenText_inj leftAdmitted rightAdmitted (by rw [isText, isOtherText, sameText])
  | .leaf .comment, some (.text _), some (.text _), _, _, same =>
      congrArg (some ∘ Value.text) (String.toList_inj.mp (List.cons.inj same).2)
  | .block _, none, none, _, _, _ => rfl
  | .root, none, none, _, _, _ => rfl
  | .program, none, none, _, _, _ => rfl
  | .expression, none, none, _, _, _ => rfl
  | .paramlist, none, none, _, _, _ => rfl
  | .blank, none, none, _, _, _ => rfl

/-- What is said behind the name of a block tells its style. -/
theorem eq_of_labelDetail_block {left right : Delimiter} {leftValue rightValue : Option Value}
    (same : labelDetail (.block left) leftValue = labelDetail (.block right) rightValue) :
    left = right := by
  have sameName : left.name.toList = right.name.toList := (List.cons.inj same).2
  cases left <;> cases right <;> first | rfl | (revert sameName; decide)

/-- The name in front of a label is its first word. -/
theorem takeWhile_label (kind : NodeKind) (value : Option Value) :
    (label kind value).toList.takeWhile (fun c => c != ' ' && !isLineEnd c) =
      kind.name.toList := by
  rw [toList_label]
  refine (isDetached_labelDetail kind value).takeWhile_append (fun c member => ?_) rfl rfl
  simpa using kind.name_isWord c member

/-- A label tells the kind of a node and the value that it holds. -/
theorem label_inj {left right : NodeKind} {leftValue rightValue : Option Value}
    (leftAdmitted : left.admits leftValue = true) (rightAdmitted : right.admits rightValue = true)
    (same : label left leftValue = label right rightValue) :
    left = right ∧ leftValue = rightValue := by
  have sameName : left.name.toList = right.name.toList := by
    rw [← takeWhile_label left leftValue, same, takeWhile_label]
  have sameDetail : labelDetail left leftValue = labelDetail right rightValue := by
    have sameChars := congrArg String.toList same
    rwa [toList_label, toList_label, sameName, List.append_cancel_left_eq] at sameChars
  have sameKind : left = right := by
    have sameNamed := NodeKind.representative_eq_of_name (String.toList_inj.mp sameName)
    rcases NodeKind.eq_or_blocks_of_representative sameNamed with same | ⟨_, _, rfl, rfl⟩
    · exact same
    · rw [eq_of_labelDetail_block sameDetail]
  subst sameKind
  exact ⟨rfl, value_eq_of_labelDetail leftAdmitted rightAdmitted sameDetail⟩

end Node

end BlockData
