import Mathlib.Data.List.Basic
import Mathlib.Data.List.Flatten
import SelectorPreview.Log
/-!
# Lines

The lines of a text are its pieces between line feeds. A text is closed if its last line is ended;
then the lines of what follows are lines of their own.

* `lines_append`, `lines_join` : the lines of texts after one another;
* `lines_shown` : a shown record has lines of its own.
-/

namespace SelectorPreview

namespace Text

/-- The pieces of a text between its line feeds. -/
def linePieces (text : String) : List String :=
  (text.toList.splitOnP (· == '\n')).map String.ofList

/-- The lines of a text; a line feed at the end begins no line of its own. -/
def lines (text : String) : List String :=
  if (linePieces text).getLast? = some "" then (linePieces text).dropLast else linePieces text

/-- Whether all lines of a text are ended. -/
def Closed (text : String) : Prop := text = "" ∨ ∃ start, text = start ++ "\n"

/-- A line feed between two texts separates their pieces. -/
theorem linePieces_append (s t : String) :
    linePieces (s ++ "\n" ++ t) = linePieces s ++ linePieces t := by
  have hlist : (s ++ "\n" ++ t).toList = s.toList ++ '\n' :: t.toList := by simp
  rw [linePieces, hlist, List.splitOnP_append_cons _ _ (by rfl), List.map_append, linePieces,
    linePieces]

/-- Every text has a piece. -/
theorem linePieces_ne_nil (text : String) : linePieces text ≠ [] := by
  intro h
  exact List.splitOnP_ne_nil _ _ (List.map_eq_nil_iff.1 h)

/-- A line feed between two texts separates their lines. -/
theorem lines_append_newline (s t : String) : lines (s ++ "\n" ++ t) = linePieces s ++ lines t := by
  have hlast : (linePieces s ++ linePieces t).getLast? = (linePieces t).getLast? := by
    rw [List.getLast?_append_of_ne_nil _ (linePieces_ne_nil t)]
  rw [lines, lines, linePieces_append, hlast]
  split
  · rw [List.dropLast_append_of_ne_nil (linePieces_ne_nil t)]
  · rfl

/-- The empty text has no lines. -/
@[simp] theorem lines_empty : lines "" = [] := by decide

/-- After a text whose lines are ended there are the lines of what follows. -/
theorem lines_append {s : String} (h : Closed s) (t : String) :
    lines (s ++ t) = lines s ++ lines t := by
  rcases h with rfl | ⟨start, rfl⟩
  · rw [String.empty_append, lines_empty, List.nil_append]
  · have hstart := lines_append_newline start ""
    rw [String.append_empty, lines_empty, List.append_nil] at hstart
    rw [lines_append_newline, hstart]

/-- A line that is ended is closed. -/
theorem closed_append_newline (s : String) : Closed (s ++ "\n") := Or.inr ⟨s, rfl⟩

/-- A text is closed if its last part ends with a line feed. -/
theorem closed_append_of_eq {s t : String} (start : String) (h : t = start ++ "\n") :
    Closed (s ++ t) := by
  rw [h, ← String.append_assoc]
  exact closed_append_newline _

/-- Two closed texts are closed together. -/
theorem Closed.append {s t : String} (hs : Closed s) (ht : Closed t) : Closed (s ++ t) := by
  rcases ht with rfl | ⟨start, ht⟩
  · rwa [String.append_empty]
  · exact closed_append_of_eq start ht

/-- Closed texts are closed together. -/
theorem closed_join {texts : List String} (h : ∀ t ∈ texts, Closed t) :
    Closed (String.join texts) := by
  induction texts with
  | nil => exact Or.inl rfl
  | cons t rest ih =>
    rw [String.join_cons]
    exact (h t List.mem_cons_self).append (ih fun u hu => h u (List.mem_cons_of_mem _ hu))

/-- The lines of closed texts after one another are the lines of each. -/
theorem lines_join {texts : List String} (h : ∀ t ∈ texts, Closed t) :
    lines (String.join texts) = texts.flatMap lines := by
  induction texts with
  | nil => exact lines_empty
  | cons t rest ih =>
    rw [String.join_cons, lines_append (h t List.mem_cons_self), List.flatMap_cons,
      ih fun u hu => h u (List.mem_cons_of_mem _ hu)]

end Text

namespace Log

open Text

/-- Each shown record is closed. -/
theorem closed_of_mem_shown {logger : Logger} {records : List Record} :
    ∀ t ∈ (records.filter logger.shows).map (·.text ++ "\n"), Closed t := by
  intro t ht
  obtain ⟨record, -, rfl⟩ := List.mem_map.1 ht
  exact closed_append_newline _

/-- What a logger shows is closed. -/
theorem closed_shown (logger : Logger) (records : List Record) : Closed (logger.shown records) :=
  closed_join closed_of_mem_shown

/-- The lines that a logger shows are those of the shown records. -/
theorem lines_shown (logger : Logger) (records : List Record) :
    lines (logger.shown records) =
      (records.filter logger.shows).flatMap fun record => lines (record.text ++ "\n") := by
  rw [Logger.shown, lines_join closed_of_mem_shown, List.flatMap_map]

/-- Records after one another are shown after one another. -/
theorem shown_append (logger : Logger) (records others : List Record) :
    logger.shown (records ++ others) = logger.shown records ++ logger.shown others := by
  rw [Logger.shown, Logger.shown, Logger.shown, List.filter_append, List.map_append,
    String.join_append]

end Log

end SelectorPreview
