import Mathlib.Data.List.Basic
import RouteSync.Proofs.Text.Split
import RouteSync.Proofs.Text.Utf8Reading
import RouteSync.Stream.Decoder

/-! What is read of a line that was written with either kind of line end. -/
namespace RouteSync.Stream

open Text

section Characters

variable {cs before : List Char}

theorem dropReturn_of_ne (h : cs.getLast? ≠ some '\r') : dropReturn cs = cs := if_neg h

theorem dropReturn_concat (cs : List Char) : dropReturn (cs ++ ['\r']) = cs := by
  rw [dropReturn, List.getLast?_concat, if_pos rfl, List.dropLast_concat]

/-- Only the last character may go. -/
theorem dropReturn_append (h : '\r' ∉ before) (cs : List Char) :
    dropReturn (before ++ cs) = before ++ dropReturn cs := by
  by_cases hcs : cs = []
  · have hlast : before.getLast? ≠ some '\r' := fun hr => h (List.mem_of_getLast? hr)
    have hnil : dropReturn [] = [] := rfl
    rw [hcs, hnil, List.append_nil, dropReturn_of_ne hlast]
  · unfold dropReturn
    rw [List.getLast?_append_of_ne_nil _ hcs, List.dropLast_append_of_ne_nil hcs]
    split <;> rfl

theorem Line.ofChars_field {name : List Char} (hne : name ≠ []) (hname : ':' ∉ name)
    (value : List Char) :
    ofChars (name ++ ':' :: value) =
      .field (String.ofList name) (String.ofList (dropSpace value)) := by
  unfold ofChars
  split
  · rename_i hnil
    simp at hnil
  · rename_i cs hcolon
    obtain ⟨c, cs', rfl⟩ := List.exists_cons_of_ne_nil hne
    rw [List.cons_append, List.cons.injEq] at hcolon
    exact absurd (hcolon.1 ▸ List.mem_cons_self) hname
  · rw [splitFirst?_append hname]

end Characters

/-- How the lines of a stream end. -/
inductive LineEnd where
  | feed
  | returnFeed
  deriving DecidableEq

/-- What stands between a line and its line feed. -/
def LineEnd.returns : LineEnd → List UInt8
  | .feed => []
  | .returnFeed => [13]

section Lines

variable {name s : String}

theorem Line.ofBytes_text (h : s.toList.getLast? ≠ some '\r') (ends : LineEnd) :
    ofBytes (Utf8.bytes s ++ ends.returns) = ofChars s.toList := by
  unfold ofBytes
  rw [Utf8.lossy_bytes_append, String.toList_append]
  cases ends with
  | feed =>
    have hnil : (Utf8.lossy LineEnd.feed.returns).toList = [] := by decide
    rw [hnil, List.append_nil, dropReturn_of_ne h]
  | returnFeed =>
    have hreturn : (Utf8.lossy LineEnd.returnFeed.returns).toList = ['\r'] := by decide
    rw [hreturn, dropReturn_concat]

/-- A field as it is written, with one space after its colon. -/
def fieldLine (name value : String) : String := name ++ ": " ++ value

theorem Line.ofBytes_fieldLine {value : String} (hne : name ≠ "") (hcolon : ':' ∉ name.toList)
    (hvalue : value.toList.getLast? ≠ some '\r') (ends : LineEnd) :
    ofBytes (Utf8.bytes (fieldLine name value) ++ ends.returns) = .field name value := by
  have hchars : (fieldLine name value).toList = name.toList ++ ':' :: ' ' :: value.toList := by
    simp [fieldLine]
  have hlast : (fieldLine name value).toList.getLast? ≠ some '\r' := by
    rw [hchars]
    cases hv : value.toList with
    | nil => simp
    | cons c cs =>
      rw [hv] at hvalue
      simpa using hvalue
  rw [ofBytes_text hlast, hchars, ofChars_field (by simpa using hne) hcolon, dropSpace,
    String.ofList_toList, String.ofList_toList]

theorem Line.ofBytes_field (hne : name ≠ "") (hcolon : ':' ∉ name.toList)
    (hreturn : '\r' ∉ name.toList) (rest : List UInt8) :
    ∃ value, ofBytes (Utf8.bytes (name ++ ":") ++ rest) = .field name value := by
  have hbefore : '\r' ∉ (name ++ ":").toList := by simp [hreturn]
  unfold ofBytes
  rw [Utf8.lossy_bytes_append, String.toList_append, dropReturn_append hbefore,
    String.toList_append, List.append_assoc]
  have hfield := ofChars_field (by simpa using hne) hcolon (dropReturn (Utf8.lossy rest).toList)
  rw [String.ofList_toList] at hfield
  exact ⟨_, hfield⟩

theorem Line.ofBytes_comment (rest : List UInt8) :
    ofBytes (Utf8.bytes ":" ++ rest) = .comment := by
  have hbefore : '\r' ∉ (":" : String).toList := by decide
  unfold ofBytes
  rw [Utf8.lossy_bytes_append, String.toList_append, dropReturn_append hbefore]
  rfl

end Lines

end RouteSync.Stream
