import Mathlib
import SelectorPreview.Proofs.Attribute
/-!
# Frames are lossless

Everything that goes into a frame can be read back from its text alone: the page by decoding the
`srcdoc` once, the address of the style sheet by decoding the `href` in this page once more, and the
size from the two numbers. So frames with the same text show the same fragment with the same
settings, whatever characters stand in the fragment or in the address.

* `href?_page` : the address in the head of a page;
* `read?_wrap` : a frame is read back as what went into it;
* `wrap_lossless` : the page, the address and the size, and when two frames are the same.
-/

namespace SelectorPreview.Frame

open Text Markup

/-! ## The reader -/

/-- What can be read from a frame. -/
structure Reading where
  fragment : String
  href : String
  width : Nat
  height : Nat
  deriving DecidableEq

/-- The page of a frame: its `srcdoc`, decoded once. -/
def page? (html : String) : Option (List Char) := (attribute? "srcdoc" html.toList).map decode

/-- The address that a page links to: the first `href` in it, decoded once. -/
def href? (page : List Char) : Option String :=
  (attribute? "href" page).map fun value => String.ofList (decode value)

/-- The value of an attribute that is a number. -/
def number? (name html : String) : Option Nat :=
  (attribute? name html.toList).bind fun value => (String.ofList value).toNat?

/-- Reads a frame. The fragment is what follows the head that belongs to the address read. -/
def read? (html : String) : Option Reading := do
  let page ← page? html
  let href ← href? page
  let fragment ← (pageHead { href := href }).toList.isPrefixOf? page
  let width ← number? "width" html
  let height ← number? "height" html
  pure { fragment := String.ofList fragment, href := href, width := width, height := height }

/-! ## Reading back -/

/-- A value that is written as a number is read as this number. -/
theorem number?_of_attribute? {name html : String} {n : Nat}
    (h : attribute? name html.toList = some (decimal n).toList) : number? name html = some n := by
  have hdigits : (decimal n).toNat? = some n := Nat.toNat?_repr n
  rw [number?, h, Option.bind_some, String.ofList_toList, hdigits]

section

variable (fragment : String) (options : Options)

/-- The page of a frame is the head with the fragment behind it. -/
theorem page?_wrap :
    page? (wrap fragment options) = some ((pageHead options).toList ++ fragment.toList) := by
  rw [page?, attribute?_srcdoc_wrap, Option.map_some, decode_escapeList]

/-- The width of a frame is the one of the settings. -/
theorem number?_width_wrap :
    number? "width" (wrap fragment options) = some options.frameWidth.toNat := by
  apply number?_of_attribute?
  rw [attribute?, attributes_wrap]
  rfl

/-- The height of a frame is the one of the settings. -/
theorem number?_height_wrap :
    number? "height" (wrap fragment options) = some options.frameHeight.toNat := by
  apply number?_of_attribute?
  rw [attribute?, attributes_wrap]
  rfl

/-- The address of the style sheet stands escaped in the head of a page, up to the next quote. -/
theorem attribute?_href_page (rest : List Char) :
    attribute? "href" ((pageHead options).toList ++ rest) = some (escapeList options.href.toList) := by
  have hopen : "<html><head><link href=\"".toList = "<html><head><link href=".toList ++ ['"'] := by
    decide
  have hclose : "\" rel=\"stylesheet\" type=\"text/css\"/></head><body style=\"".toList =
      '"' :: " rel=\"stylesheet\" type=\"text/css\"/></head><body style=\"".toList := by
    decide
  have hname : attributeName "<html><head><link href=".toList = "href".toList := by decide
  unfold pageHead
  simp only [String.toList_append]
  rw [hopen, hclose, toList_escape]
  simp only [List.append_assoc, List.cons_append, List.nil_append]
  rw [attribute?, attributes, quotedValues_append _ (by decide) (quote_not_mem_escapeList _),
    List.map_cons]
  simp only [hname, List.lookup_cons_self]

/-- The address is read back from a page, whatever stands behind the head. -/
theorem href?_page (rest : List Char) :
    href? ((pageHead options).toList ++ rest) = some options.href := by
  rw [href?, attribute?_href_page, Option.map_some, decode_escapeList, String.ofList_toList]

/-- **A frame is read back as what went into it.** -/
theorem read?_wrap :
    read? (wrap fragment options) =
      some { fragment := fragment, href := options.href,
             width := options.frameWidth.toNat, height := options.frameHeight.toNat } := by
  have hhead : pageHead { href := options.href } = pageHead options := rfl
  have hfragment : (pageHead options).toList.isPrefixOf?
      ((pageHead options).toList ++ fragment.toList) = some fragment.toList :=
    List.isPrefixOf?_eq_some_iff_append_eq.2 rfl
  simp only [read?, page?_wrap, href?_page, number?_width_wrap, number?_height_wrap, hhead,
    hfragment, String.ofList_toList, Option.bind_eq_bind, Option.bind_some, Option.pure_def]

end

/-- Frames with the same text have the same fragment, address and size, and the other way round. -/
theorem wrap_eq_wrap_iff {fragment other : String} {options settings : Options} :
    wrap fragment options = wrap other settings ↔
      fragment = other ∧ options.href = settings.href ∧
        options.frameWidth = settings.frameWidth ∧ options.frameHeight = settings.frameHeight := by
  constructor
  · intro h
    have hread := congrArg read? h
    rw [read?_wrap, read?_wrap, Option.some.injEq, Reading.mk.injEq] at hread
    obtain ⟨hfragment, hhref, hwidth, hheight⟩ := hread
    exact ⟨hfragment, hhref, UInt32.toNat_inj.1 hwidth, UInt32.toNat_inj.1 hheight⟩
  · rintro ⟨rfl, hhref, hwidth, hheight⟩
    have hhead : pageHead options = pageHead settings := by
      unfold pageHead
      rw [hhref]
    unfold wrap
    rw [hwidth, hheight, hhead]

/-- **Frames are lossless.** The `srcdoc` of a frame, decoded once, is the head of the page with the
fragment behind it; the `href` in this page, decoded once more, is the address of the style sheet;
and the two numbers are the size. So all that went into a frame can be read from its text, and two
frames have the same text only if the same went into them. -/
theorem wrap_lossless (fragment : String) (options : Options) :
    (∃ page, attribute? "srcdoc" (wrap fragment options).toList = some page ∧
      decode page = (pageHead options).toList ++ fragment.toList ∧
      ∃ address, attribute? "href" (decode page) = some address ∧
        decode address = options.href.toList) ∧
    number? "width" (wrap fragment options) = some options.frameWidth.toNat ∧
    number? "height" (wrap fragment options) = some options.frameHeight.toNat ∧
    read? (wrap fragment options) =
      some { fragment := fragment, href := options.href,
             width := options.frameWidth.toNat, height := options.frameHeight.toNat } ∧
    ∀ (other : String) (settings : Options),
      wrap fragment options = wrap other settings ↔
        fragment = other ∧ options.href = settings.href ∧
          options.frameWidth = settings.frameWidth ∧
          options.frameHeight = settings.frameHeight := by
  have hpage := page?_wrap fragment options
  rw [page?, Option.map_eq_some_iff] at hpage
  obtain ⟨page, hvalue, hdecoded⟩ := hpage
  refine ⟨⟨page, hvalue, hdecoded, ?_⟩, number?_width_wrap fragment options,
    number?_height_wrap fragment options, read?_wrap fragment options,
    fun _ _ => wrap_eq_wrap_iff⟩
  rw [hdecoded]
  exact ⟨_, attribute?_href_page options fragment.toList, decode_escapeList _⟩

end SelectorPreview.Frame
