import SelectorPreview.Frame
import SelectorPreview.Placeholder
/-!
# The preview document

The document has one block for each chain that the selectors of a sheet reduce to, in the order of
first occurrence. The block of a chain shows the placeholders of its segments around the selector
list of the rule that gave the chain first, in a frame if that selector belongs into one.

* `picks` : the selectors of each rule that get a block;
* `render` : the document, that is the opening, the blocks and the end;
* `records` : what is logged on the way.
-/

namespace SelectorPreview.Document

open Markup

/-! ## Which selectors get a block -/

/-- A selector that gets a block: its rule, its text and its chain. -/
structure Block where
  rule : Rule
  selector : String
  chain : String

/-- The selectors of a list that give a chain not met before, and the chains met after them. -/
def pickSelectors (rule : Rule) : Chain.Seen → List String → List Block × Chain.Seen
  | seen, [] => ([], seen)
  | seen, selector :: rest =>
    match Chain.ofSelector? selector with
    | none => pickSelectors rule seen rest
    | some chain =>
      if seen.contains chain then pickSelectors rule seen rest
      else
        let (others, after) := pickSelectors rule (seen.insert chain) rest
        (⟨rule, selector, chain⟩ :: others, after)

/-- Each rule with the blocks of its selectors. -/
def pickRules : Chain.Seen → List Rule → List (Rule × List Block)
  | _, [] => []
  | seen, rule :: rest =>
    let (blocks, after) := pickSelectors rule seen rule.selectors
    (rule, blocks) :: pickRules after rest

/-- Each rule of a sheet with the blocks of its selectors. -/
def picks (sheet : Sheet) : List (Rule × List Block) := pickRules {} sheet.rules

/-- The blocks of a sheet in document order. -/
def blocks (sheet : Sheet) : List Block := (picks sheet).flatMap (·.2)

/-! ## Drawing -/

/-- The registry by which the blocks of a sheet are framed; it is empty without frames. -/
def registry (sheet : Sheet) (options : Options) : Frame.Registry :=
  if options.frames then Frame.Registry.ofSheet sheet else {}

/-- Whether a block is drawn in a frame. -/
def Block.framed (registry : Frame.Registry) (options : Options) (block : Block) : Bool :=
  options.frames && Frame.isNeeded block.rule (Chain.flatten block.selector) registry

/-- The placeholders of a block. -/
def Block.fragment (block : Block) : String :=
  Placeholder.drawChain (Chain.segments block.chain) block.rule.label

/-- A block as it stands in the document. -/
def Block.html (registry : Frame.Registry) (options : Options) (block : Block) : String :=
  if block.framed registry options then Frame.wrap block.fragment options else block.fragment

/-- The beginning of the document, up to the first block. -/
def opening (href : String) : String :=
  "<!DOCTYPE html>\n<html lang=\"en\">\n<head>\n    <meta charset=\"UTF-8\">\n" ++
    "    <title>CSS preview: " ++ escape href ++ "</title>\n    <link href=\"" ++ escape href ++
    "\" rel=\"stylesheet\" type=\"text/css\" />\n</head>\n<body>\n\n"

/-- The end of the document. -/
def closing : String := "\n    </body>\n    </html>\n"

/-- The preview document of a sheet. -/
def render (sheet : Sheet) (options : Options) : String :=
  opening options.href ++
    String.join ((blocks sheet).map (Block.html (registry sheet options) options)) ++ closing

/-! ## Logging -/

/-- The records of a block: its chain, then a warning for each segment that cannot be drawn. -/
def Block.records (block : Block) : List Log.Record :=
  ⟨.debug, .document, "\t" ++ block.chain⟩ ::
    (Chain.segments block.chain).flatMap Placeholder.warnings

/-- The records of a rule and its blocks. -/
def ruleRecords (rule : Rule) (blocks : List Block) : List Log.Record :=
  ⟨.debug, .document, "CSS Rule: " ++ rule.label⟩ :: ⟨.trace, .document, rule.listing⟩ ::
    blocks.flatMap Block.records

/-- What is logged while a document is made. -/
def records (sheet : Sheet) (options : Options) : List Log.Record :=
  ⟨.debug, .document,
    "Out-of-flow selectors: " ++ Text.quotedList (registry sheet options).selectors⟩ ::
    (picks sheet).flatMap fun (rule, blocks) => ruleRecords rule blocks

end SelectorPreview.Document
