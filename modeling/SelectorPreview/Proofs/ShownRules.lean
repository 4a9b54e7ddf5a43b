import Mathlib.Logic.Relation
import SelectorPreview.Preview
/-!
# Which rules of a tree are shown

The style rules of a tree can be listed in document order, each with the rules that it stands in. A
sheet shows those of the list that stand in no other rule, or in one media rule only. So media rules
around style rules do not show, and neither do other rules, wherever they stand.

* `RuleNode.styleRulesIn` : the style rules of a tree, at any depth;
* `rules_ofTree` : those that are shown;
* `Edit` : changes to a tree that do not show;
* `html_of_make` : the document of a text is the one of its tree;
* `media_is_transparent` : the sheet and the document of a tree, and of a changed one.
-/

namespace SelectorPreview

/-! ## All style rules of a tree -/

/-- The kinds of rules that a style rule can stand in. -/
inductive Enclosure where
  | style
  | media
  | other
  deriving DecidableEq

/-- A style rule of a tree, and what it stands in, from the inside to the outside. -/
structure Standing where
  within : List Enclosure
  rule : Rule

/-- Whether a style rule stands in no other rule, or in a media rule that stands in no other one. -/
def Standing.isShown (s : Standing) : Bool := s.within == [] || s.within == [.media]

namespace RuleNode

mutual

/-- The style rules in a node in document order, the node itself included; `within` is what the node
stands in. -/
def styleRules (within : List Enclosure) : RuleNode → List Standing
  | style selectors declarations nested =>
    ⟨within, ⟨selectors, Declaration.importantLast declarations⟩⟩ ::
      styleRulesIn (.style :: within) nested
  | media rules => styleRulesIn (.media :: within) rules
  | other rules => styleRulesIn (.other :: within) rules

/-- The style rules in nodes that stand next to each other, in document order. -/
def styleRulesIn (within : List Enclosure) : List RuleNode → List Standing
  | [] => []
  | node :: rest => styleRules within node ++ styleRulesIn within rest

end

mutual

/-- What a node stands in, all style rules in it stand in as well. -/
theorem suffix_of_mem_styleRules {within : List Enclosure} {s : Standing} :
    ∀ {node : RuleNode}, s ∈ node.styleRules within → within <:+ s.within
  | style selectors declarations nested, h => by
    rw [styleRules, List.mem_cons] at h
    rcases h with rfl | h
    · exact List.suffix_rfl
    · exact (List.suffix_cons _ _).trans (suffix_of_mem_styleRulesIn h)
  | media rules, h => by
    rw [styleRules] at h
    exact (List.suffix_cons _ _).trans (suffix_of_mem_styleRulesIn h)
  | other rules, h => by
    rw [styleRules] at h
    exact (List.suffix_cons _ _).trans (suffix_of_mem_styleRulesIn h)

/-- The same for nodes that stand next to each other. -/
theorem suffix_of_mem_styleRulesIn {within : List Enclosure} {s : Standing} :
    ∀ {nodes : List RuleNode}, s ∈ styleRulesIn within nodes → within <:+ s.within
  | node :: rest, h => by
    rw [styleRulesIn, List.mem_append] at h
    rcases h with h | h
    · exact suffix_of_mem_styleRules h
    · exact suffix_of_mem_styleRulesIn h

end

/-! ## The style rules that are shown -/

/-- The rules of those style rules of a list that are shown. -/
def shownOf (l : List Standing) : List Rule := (l.filter (·.isShown)).map (·.rule)

/-- What is shown of two lists one after the other. -/
theorem shownOf_append (l more : List Standing) :
    shownOf (l ++ more) = shownOf l ++ shownOf more := by
  rw [shownOf, List.filter_append, List.map_append, ← shownOf, ← shownOf]

/-- A style rule at a place that is shown comes first, if it comes first in the list. -/
theorem shownOf_cons {s : Standing} (h : s.isShown = true) (l : List Standing) :
    shownOf (s :: l) = s.rule :: shownOf l := by
  rw [shownOf, List.filter_cons_of_pos h, List.map_cons, ← shownOf]

/-- A style rule is shown if what it stands in is an end of a single media rule. -/
theorem isShown_iff {s : Standing} : s.isShown = true ↔ s.within <:+ [.media] := by
  rw [List.suffix_cons_iff, List.suffix_nil, Standing.isShown, Bool.or_eq_true, beq_iff_eq,
    beq_iff_eq, or_comm]

/-- **Nothing is shown of what is inside of other rules,** a media rule around it apart. -/
theorem shownOf_styleRulesIn_eq_nil {within : List Enclosure} (h : ¬ within <:+ [.media])
    (nodes : List RuleNode) : shownOf (styleRulesIn within nodes) = [] := by
  rw [shownOf, List.map_eq_nil_iff, List.filter_eq_nil_iff]
  intro s hs hshown
  exact h ((suffix_of_mem_styleRulesIn hs).trans (isShown_iff.1 hshown))

/-- Of a node in a media rule that stands in no other rule, a style rule is shown that the node is
itself. -/
theorem shownOf_styleRules_inMedia (node : RuleNode) :
    shownOf (node.styleRules [.media]) = node.rule?.toList := by
  -- What is inside of the node stands in two rules at least.
  have hdeep : ∀ (enclosure : Enclosure) (nodes : List RuleNode),
      shownOf (styleRulesIn [enclosure, .media] nodes) = [] := by
    intro enclosure nodes
    apply shownOf_styleRulesIn_eq_nil
    intro h
    have hlength := h.length_le
    simp at hlength
  cases node with
  | style selectors declarations nested => rw [styleRules, shownOf_cons rfl, hdeep]; rfl
  | media rules => rw [styleRules, hdeep]; rfl
  | other rules => rw [styleRules, hdeep]; rfl

/-- Of the nodes in such a media rule the style rules are shown. -/
theorem shownOf_styleRulesIn_inMedia (nodes : List RuleNode) :
    shownOf (styleRulesIn [.media] nodes) = nodes.filterMap rule? := by
  induction nodes with
  | nil => rfl
  | cons node rest ih =>
    rw [styleRulesIn, shownOf_append, shownOf_styleRules_inMedia, ih, List.filterMap_cons]
    cases node.rule? <;> rfl

/-- The style rules that are shown of a node in no other rule are those in the list of its style
rules. -/
theorem shownOf_styleRules_outermost (node : RuleNode) :
    shownOf (node.styleRules []) = node.shown := by
  cases node with
  | style selectors declarations nested =>
    rw [styleRules, shownOf_cons rfl, shownOf_styleRulesIn_eq_nil (by decide)]
    rfl
  | media rules => rw [styleRules, shownOf_styleRulesIn_inMedia]; rfl
  | other rules => rw [styleRules, shownOf_styleRulesIn_eq_nil (by decide)]; rfl

/-- **The rules of a sheet** are the style rules of its tree that are shown. -/
theorem rules_ofTree (nodes : List RuleNode) :
    (Sheet.ofTree nodes).rules = shownOf (styleRulesIn [] nodes) := by
  show nodes.flatMap shown = _
  induction nodes with
  | nil => rfl
  | cons node rest ih =>
    rw [List.flatMap_cons, ih, styleRulesIn, shownOf_append, shownOf_styleRules_outermost]

/-! ## Changes to a tree -/

/-- Whether a node is a style rule. -/
def isStyle : RuleNode → Bool
  | style .. => true
  | _ => false

/-- A rule that is neither a style rule nor a media rule has been put in, somewhere in a list of
nodes or inside of one of them. -/
inductive PutsIn : List RuleNode → List RuleNode → Prop where
  /-- The rule stands in the list itself. -/
  | here (before rules after : List RuleNode) :
      PutsIn (before ++ after) (before ++ other rules :: after)
  | inMedia (before after : List RuleNode) {rules grown : List RuleNode} (h : PutsIn rules grown) :
      PutsIn (before ++ media rules :: after) (before ++ media grown :: after)
  | inStyle (before after : List RuleNode) (selectors : List String)
      (declarations : List Declaration) {nested grown : List RuleNode} (h : PutsIn nested grown) :
      PutsIn (before ++ style selectors declarations nested :: after)
        (before ++ style selectors declarations grown :: after)
  | inOther (before after : List RuleNode) {rules grown : List RuleNode} (h : PutsIn rules grown) :
      PutsIn (before ++ other rules :: after) (before ++ other grown :: after)

/-- A change to a tree: style rules next to each other that stand in no other rule get a media rule
around them, or another rule is put in anywhere. -/
inductive Edit : List RuleNode → List RuleNode → Prop where
  | wrap (before run after : List RuleNode) (h : ∀ node ∈ run, node.isStyle = true) :
      Edit (before ++ run ++ after) (before ++ media run :: after)
  | putIn {nodes grown : List RuleNode} (h : PutsIn nodes grown) : Edit nodes grown

/-- Of style rules in no other rule the same is shown as of a media rule around them. -/
theorem flatMap_shown_of_isStyle {run : List RuleNode} (h : ∀ node ∈ run, node.isStyle = true) :
    run.flatMap shown = (media run).shown := by
  show _ = run.filterMap rule?
  induction run with
  | nil => rfl
  | cons node rest ih =>
    obtain ⟨hnode, hrest⟩ := List.forall_mem_cons.1 h
    rw [List.flatMap_cons, ih hrest]
    cases node with
    | style selectors declarations nested => rfl
    | media rules => cases hnode
    | other rules => cases hnode

/-- A node can be replaced by one that is the same style rule and of which the same is shown. -/
theorem shown_of_replaced {node other : RuleNode} (hrule : node.rule? = other.rule?)
    (hshown : node.shown = other.shown) (before after : List RuleNode) :
    (before ++ node :: after).filterMap rule? = (before ++ other :: after).filterMap rule? ∧
      (before ++ node :: after).flatMap shown = (before ++ other :: after).flatMap shown := by
  rw [List.filterMap_append, List.filterMap_append, List.filterMap_cons, List.filterMap_cons,
    List.flatMap_append, List.flatMap_append, List.flatMap_cons, List.flatMap_cons, hrule, hshown]
  exact ⟨rfl, rfl⟩

/-- Another rule that is put in changes neither which style rules a list of nodes has nor what is
shown of it. -/
theorem shown_of_putsIn {nodes grown : List RuleNode} (h : PutsIn nodes grown) :
    nodes.filterMap rule? = grown.filterMap rule? ∧ nodes.flatMap shown = grown.flatMap shown := by
  induction h with
  | here before rules after =>
    rw [List.filterMap_append, List.filterMap_append, List.flatMap_append, List.flatMap_append]
    exact ⟨rfl, rfl⟩
  | inMedia before after _ ih =>
    -- Of a media rule its own style rules are shown, and these are the same inside of it.
    apply shown_of_replaced
    · rfl
    · exact ih.1
  | inStyle before after _ _ _ _ => apply shown_of_replaced <;> rfl
  | inOther before after _ _ => apply shown_of_replaced <;> rfl

/-- **A change does not show.** -/
theorem ofTree_eq_of_edit {nodes changed : List RuleNode} (h : Edit nodes changed) :
    Sheet.ofTree nodes = Sheet.ofTree changed := by
  unfold Sheet.ofTree
  cases h with
  | wrap before run after hrun =>
    rw [List.flatMap_append, List.flatMap_append, List.flatMap_append, List.flatMap_cons,
      flatMap_shown_of_isStyle hrun, List.append_assoc]
  | putIn hput => rw [(shown_of_putsIn hput).2]

/-- Neither do any number of changes, made or taken back. -/
theorem ofTree_eq_of_edits {nodes changed : List RuleNode}
    (h : Relation.EqvGen Edit nodes changed) : Sheet.ofTree nodes = Sheet.ofTree changed := by
  induction h with
  | rel nodes changed hedit => exact ofTree_eq_of_edit hedit
  | refl nodes => rfl
  | symm nodes changed _ ih => exact ih.symm
  | trans nodes between changed _ _ ihfirst ihsecond => exact ihfirst.trans ihsecond

end RuleNode

/-! ## Documents -/

/-- The document of a text is the one of the tree that the text is read as, whatever the reader. -/
theorem html_of_make {reader : SheetReader} {css : String} {options : Options} {preview : Preview}
    (h : Preview.make reader css options = .ok preview) :
    ∃ reading, reader css = .ok reading ∧
      preview.html = Document.render (Sheet.ofTree reading.tree) options := by
  unfold Preview.make at h
  split at h
  · rename_i reading hreading
    cases h
    exact ⟨reading, hreading, rfl⟩
  · cases h

/-- **Media rules are transparent.** The rules of a sheet are, in document order and as often as they
stand in the tree, the style rules in no other rule or directly in a media rule that stands in no
other one. So whatever media rules are put around style rules in no other rule, or taken away there,
and whatever other rules are put in or taken out anywhere: the sheet stays the same, and with it the
document. -/
theorem media_is_transparent :
    (∀ nodes, (Sheet.ofTree nodes).rules =
      ((RuleNode.styleRulesIn [] nodes).filter (·.isShown)).map (·.rule)) ∧
    ∀ nodes changed, Relation.EqvGen RuleNode.Edit nodes changed →
      Sheet.ofTree nodes = Sheet.ofTree changed ∧
      ∀ options, Document.render (Sheet.ofTree nodes) options =
        Document.render (Sheet.ofTree changed) options := by
  refine ⟨RuleNode.rules_ofTree, ?_⟩
  intro nodes changed h
  have hsheet := RuleNode.ofTree_eq_of_edits h
  exact ⟨hsheet, fun options => by rw [hsheet]⟩

/-- A card with a rule for its hovered state inside of it. -/
def cardNode : RuleNode :=
  .style [".card"] [⟨"color", "red", false⟩] [.style ["&:hover"] [⟨"color", "blue", false⟩] []]

/-- A banner that is fixed. -/
def bannerNode : RuleNode :=
  .style [".banner"] [⟨"position", "fixed", true⟩, ⟨"color", "red", false⟩] []

/-- A card and a banner with a font behind them. -/
def plainTree : List RuleNode := [cardNode, bannerNode, .other []]

/-- The same card and banner on a screen only, with a rule for other ones between them. -/
def screenTree : List RuleNode := [.media [cardNode, .other [bannerNode], bannerNode]]

/-- Both trees have the same document, in which neither the hovered state nor the inner banner has a
block of its own. -/
theorem transparent_screenTree :
    Relation.EqvGen RuleNode.Edit plainTree screenTree ∧
      Document.render (Sheet.ofTree plainTree) { href := "style.css" } =
        Document.render (Sheet.ofTree screenTree) { href := "style.css" } ∧
      (Sheet.ofTree screenTree).rules =
        [⟨[".card"], [⟨"color", "red", false⟩]⟩,
          ⟨[".banner"], [⟨"color", "red", false⟩, ⟨"position", "fixed", true⟩]⟩] := by
  have hfont : RuleNode.Edit [cardNode, bannerNode] plainTree :=
    .putIn (.here [cardNode, bannerNode] [] [])
  have hscreen : RuleNode.Edit [cardNode, bannerNode] [.media [cardNode, bannerNode]] :=
    .wrap [] [cardNode, bannerNode] [] (by decide)
  have hinner : RuleNode.Edit [.media [cardNode, bannerNode]] screenTree :=
    .putIn (.inMedia [] [] (.here [cardNode] [bannerNode] [bannerNode]))
  have hedits : Relation.EqvGen RuleNode.Edit plainTree screenTree :=
    .trans _ _ _ (.symm _ _ (.rel _ _ hfont)) (.trans _ _ _ (.rel _ _ hscreen) (.rel _ _ hinner))
  obtain ⟨hrules, hsame⟩ := media_is_transparent
  refine ⟨hedits, (hsame _ _ hedits).2 _, ?_⟩
  rw [hrules]
  decide

end SelectorPreview
