import Mathlib.Data.List.Basic
import SelectorPreview.Frame
import SelectorPreview.Proofs.MarkupText
/-!
# Reading attributes back from markup

A reader of attributes cuts markup at its double quotes: the texts at every second place are the
quoted values, and the last word before a value, without its equals sign, is the name of the
attribute. The reader knows nothing of how markup is written, and it does not decode.

* `attributes_wrap` : the four attributes of a frame;
* `content?_wrap` : a frame gives back the fragment that was put into it.
-/

namespace SelectorPreview

open Text

namespace Markup

/-! ## The reader -/

/-- Takes the texts of a list in pairs. -/
def pairs : List (List Char) → List (List Char × List Char)
  | before :: value :: rest => (before, value) :: pairs rest
  | _ => []

/-- The quoted values of a markup text, each with the text before it. -/
def quotedValues (s : List Char) : List (List Char × List Char) := pairs (s.splitOnP (· == '"'))

/-- The name of an attribute: the last word of the text before its value, without the equals sign.
-/
def attributeName (before : List Char) : List Char :=
  (before.dropLast.reverse.takeWhile (! isBlank ·)).reverse

/-- The attributes of a markup text, by name and value. -/
def attributes (s : List Char) : List (List Char × List Char) :=
  (quotedValues s).map fun (before, value) => (attributeName before, value)

/-- The value of the first attribute with a name. -/
def attribute? (name : String) (s : List Char) : Option (List Char) :=
  (attributes s).lookup name.toList

/-- A quoted value is read up to the next quote. -/
theorem quotedValues_append {before value : List Char} (rest : List Char) (hbefore : '"' ∉ before)
    (hvalue : '"' ∉ value) :
    quotedValues (before ++ '"' :: (value ++ '"' :: rest)) =
      (before, value) :: quotedValues rest := by
  have hcut : ∀ {s : List Char} (t : List Char), '"' ∉ s →
      (s ++ '"' :: t).splitOnP (· == '"') = s :: t.splitOnP (· == '"') := by
    intro s t hs
    apply List.splitOnP_append_cons_of_forall_mem
    · intro c hc
      simpa using fun heq : c = '"' => hs (heq ▸ hc)
    · rfl
  rw [quotedValues, hcut _ hbefore, hcut _ hvalue]
  rfl

/-- A text without quotes has no quoted values. -/
theorem quotedValues_eq_nil {s : List Char} (h : '"' ∉ s) : quotedValues s = [] := by
  have hcut : s.splitOnP (· == '"') = [s] := by
    apply List.splitOnP_eq_singleton
    intro c hc
    simpa using fun heq : c = '"' => h (heq ▸ hc)
  rw [quotedValues, hcut]
  rfl

/-- An escaped text holds no quote. -/
theorem quote_not_mem_escapeList (s : List Char) : '"' ∉ escapeList s :=
  fun h => not_mem_delimiters_of_mem_escapeList h (by decide)

/-- A number holds no quote. -/
theorem quote_not_mem_decimal (n : Nat) : '"' ∉ (decimal n).toList :=
  fun h => not_mem_delimiters_of_mem_decimal h (by decide)

end Markup

namespace Frame

open Markup

/-! ## Reading a frame -/

/-- A frame text, cut at its quotes. -/
theorem toList_wrap (fragment : String) (options : Options) :
    (wrap fragment options).toList =
      "<iframe style=".toList ++ '"' :: (borderStyle.toList ++ '"' ::
        (" width=".toList ++ '"' :: ((decimal options.frameWidth.toNat).toList ++ '"' ::
          (" height=".toList ++ '"' :: ((decimal options.frameHeight.toNat).toList ++ '"' ::
            (" srcdoc=".toList ++ '"' ::
              (escapeList ((pageHead options).toList ++ fragment.toList) ++ '"' ::
                "></iframe><br/>\n".toList))))))) := by
  have hstyle : "<iframe style=\"".toList = "<iframe style=".toList ++ ['"'] := by decide
  have hwidth : "\" width=\"".toList = '"' :: (" width=".toList ++ ['"']) := by decide
  have hheight : "\" height=\"".toList = '"' :: (" height=".toList ++ ['"']) := by decide
  have hpage : "\" srcdoc=\"".toList = '"' :: (" srcdoc=".toList ++ ['"']) := by decide
  have hend : "\"></iframe><br/>\n".toList = '"' :: "></iframe><br/>\n".toList := by decide
  unfold wrap
  simp only [String.toList_append]
  rw [hstyle, hwidth, hheight, hpage, hend, toList_escape, toList_escape]
  simp only [List.append_assoc, List.cons_append, List.nil_append, escapeList_append]

/-- The attributes of a frame: its style, its size, and its page in markup. -/
theorem attributes_wrap (fragment : String) (options : Options) :
    attributes (wrap fragment options).toList =
      [("style".toList, borderStyle.toList),
        ("width".toList, (decimal options.frameWidth.toNat).toList),
        ("height".toList, (decimal options.frameHeight.toNat).toList),
        ("srcdoc".toList, escapeList ((pageHead options).toList ++ fragment.toList))] := by
  rw [attributes, toList_wrap,
    quotedValues_append _ (by decide) (by decide),
    quotedValues_append _ (by decide) (quote_not_mem_decimal _),
    quotedValues_append _ (by decide) (quote_not_mem_decimal _),
    quotedValues_append _ (by decide) (quote_not_mem_escapeList _),
    quotedValues_eq_nil (by decide)]
  have hstyle : attributeName "<iframe style=".toList = "style".toList := by decide
  have hwidth : attributeName " width=".toList = "width".toList := by decide
  have hheight : attributeName " height=".toList = "height".toList := by decide
  have hpage : attributeName " srcdoc=".toList = "srcdoc".toList := by decide
  simp only [List.map_cons, List.map_nil, hstyle, hwidth, hheight, hpage]

/-- The fragment that a frame shows: the value of its `srcdoc`, decoded once, without the head of
the page. -/
def content? (options : Options) (html : String) : Option String :=
  (attribute? "srcdoc" html.toList).bind fun value =>
    ((pageHead options).toList.isPrefixOf? (decode value)).map String.ofList

/-- The page of a frame stands escaped in its `srcdoc`. -/
theorem attribute?_srcdoc_wrap (fragment : String) (options : Options) :
    attribute? "srcdoc" (wrap fragment options).toList =
      some (escapeList ((pageHead options).toList ++ fragment.toList)) := by
  rw [attribute?, attributes_wrap]
  rfl

/-- A frame gives back the fragment that was put into it. -/
theorem content?_wrap (fragment : String) (options : Options) :
    content? options (wrap fragment options) = some fragment := by
  rw [content?, attribute?_srcdoc_wrap, Option.bind_some, decode_escapeList,
    List.isPrefixOf?_eq_some_iff_append_eq.2 rfl]
  simp

end Frame

end SelectorPreview
