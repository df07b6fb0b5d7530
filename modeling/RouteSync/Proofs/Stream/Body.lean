import RouteSync.Proofs.Stream.Encoding
import RouteSync.Proofs.Stream.Subscription

/-! The events of a whole body, told by its lines, and what a subscription to it answers to calls
and closings in any order. -/
namespace RouteSync.Stream

open Http Text

section Lines

def Line.value? (field : String) : Line → Option String
  | .field name value => if name = field then some value else none
  | _ => none

/-- The event that some lines make: the last name counts, and all of the data. -/
def RawEvent.ofLines? (lines : List Line) : Option RawEvent :=
  let names := lines.filterMap (Line.value? "event")
  let data := lines.filterMap (Line.value? "data")
  if names = [] ∧ data = [] then none
  else some ⟨names.getLast?.getD "message", "\n".intercalate data⟩

/-- The lines up to each blank one are those of an event, and what comes after the last blank one
is of none. -/
def eventsOfLines (lines : List Line) : List RawEvent :=
  (lines.splitOn .blank).dropLast.filterMap RawEvent.ofLines?

/-- The lines of a body that a line feed ends. -/
def endedLines (body : List UInt8) : List (List UInt8) := (body.splitOn lineFeed).dropLast

def bodyEvents (body : List UInt8) : List RawEvent :=
  eventsOfLines ((endedLines body).map Line.ofBytes)

variable {lines more : List Line}

theorem eventsOfLines_of_notMem (h : .blank ∉ lines) : eventsOfLines lines = [] := by
  rw [eventsOfLines, List.splitOn_eq_singleton h]
  rfl

theorem eventsOfLines_append_blank (h : .blank ∉ lines) (more : List Line) :
    eventsOfLines (lines ++ .blank :: more) =
      (RawEvent.ofLines? lines).toList ++ eventsOfLines more := by
  have hne : more.splitOn Line.blank ≠ [] := List.splitOn_ne_nil _ _
  rw [eventsOfLines, List.splitOn_append_cons_self_of_not_mem h, List.dropLast_cons_of_ne_nil hne,
    List.filterMap_cons]
  cases RawEvent.ofLines? lines <;> rfl

/-- Lines behind the last blank one make no event. -/
theorem eventsOfLines_append_of_notMem (h : .blank ∉ more) :
    eventsOfLines (lines ++ more) = eventsOfLines lines := by
  induction hn : lines.length using Nat.strongRecOn generalizing lines with
  | _ n ih =>
    by_cases hblank : .blank ∈ lines
    · obtain ⟨block, rest, rfl, hblock⟩ := List.eq_append_cons_of_mem hblank
      have hlt : rest.length < n := by
        rw [← hn, List.length_append, List.length_cons]
        omega
      have hrest : eventsOfLines (rest ++ more) = eventsOfLines rest := ih rest.length hlt rfl
      rw [List.append_assoc, List.cons_append, eventsOfLines_append_blank hblock,
        eventsOfLines_append_blank hblock, hrest]
    · have hall : .blank ∉ lines ++ more := by simp [hblank, h]
      rw [eventsOfLines_of_notMem hall, eventsOfLines_of_notMem hblank]

end Lines

section Ended

theorem intercalate_concat {α : Type} (sep : α) (parts : List (List α)) (last : List α) :
    [sep].intercalate (parts ++ [last]) = parts.flatMap (· ++ [sep]) ++ last := by
  induction parts with
  | nil => simp
  | cons part parts ih =>
    have hne : parts ++ [last] ≠ [] := by simp
    rw [List.cons_append, List.intercalate_cons_of_ne_nil hne, ih, List.flatMap_cons]
    simp

variable {body rest : List UInt8}

/-- A body is its ended lines and an open one. -/
theorem exists_open (body : List UInt8) :
    ∃ last, body.splitOn lineFeed = endedLines body ++ [last] ∧
      body = (endedLines body).flatMap (· ++ [lineFeed]) ++ last ∧ lineFeed ∉ last := by
  have hne : body.splitOn lineFeed ≠ [] := List.splitOn_ne_nil _ _
  have hsplit : body.splitOn lineFeed = endedLines body ++ [(body.splitOn lineFeed).getLast hne] :=
    (List.dropLast_concat_getLast hne).symm
  have hparts : splitOn lineFeed body = body.splitOn lineFeed := splitOn_eq _ _
  obtain ⟨hbody, -, hfree⟩ := splitOn_eq_iff.1 hparts
  refine ⟨_, hsplit, ?_, hfree _ (List.getLast_mem hne)⟩
  rw [← intercalate_concat, ← hsplit]
  exact hbody

theorem notMem_of_mem_endedLines {line : List UInt8} (h : line ∈ endedLines body) :
    lineFeed ∉ line := by
  have hparts : splitOn lineFeed body = body.splitOn lineFeed := splitOn_eq _ _
  exact (splitOn_eq_iff.1 hparts).2.2 line (List.dropLast_subset _ h)

/-- After a line end the lines start anew. -/
theorem endedLines_append (h : body = [] ∨ body.getLast? = some lineFeed) :
    endedLines (body ++ rest) = endedLines body ++ endedLines rest := by
  obtain ⟨last, hsplit, hbody, hlast⟩ := exists_open body
  obtain ⟨open', hopen, hrest, hfree⟩ := exists_open rest
  have hempty : last = [] := by
    rcases h with rfl | hfeed
    · exact (List.append_eq_nil_iff.1 hbody.symm).2
    · rcases List.eq_nil_or_concat last with rfl | ⟨front, b, rfl⟩
      · rfl
      · rw [hbody, List.concat_eq_append, ← List.append_assoc, List.getLast?_concat] at hfeed
        rw [Option.some.inj hfeed] at hlast
        simp at hlast
  have hlines : ∀ line ∈ (endedLines body ++ endedLines rest) ++ [open'], lineFeed ∉ line := by
    intro line hline
    rcases List.mem_append.1 hline with hline | hline
    · exact (List.mem_append.1 hline).elim notMem_of_mem_endedLines notMem_of_mem_endedLines
    · rwa [List.mem_singleton.1 hline]
  have hall : body ++ rest =
      [lineFeed].intercalate ((endedLines body ++ endedLines rest) ++ [open']) := by
    rw [intercalate_concat, List.flatMap_append, List.append_assoc, ← hrest]
    conv_lhs => rw [hbody, hempty, List.append_nil]
  have hsplit' := splitOn_eq_iff.2 ⟨hall, by simp, hlines⟩
  rw [splitOn_eq] at hsplit'
  rw [endedLines, hsplit', List.dropLast_concat]

/-- An event that no blank line ends is none. -/
theorem bodyEvents_append_of_open (h : body = [] ∨ body.getLast? = some lineFeed)
    (hrest : ∀ line ∈ endedLines rest, Line.ofBytes line ≠ .blank) :
    bodyEvents (body ++ rest) = bodyEvents body := by
  have hfree : .blank ∉ (endedLines rest).map Line.ofBytes := by
    intro hmem
    obtain ⟨line, hline, hblank⟩ := List.mem_map.1 hmem
    exact hrest line hline hblank
  rw [bodyEvents, endedLines_append h, List.map_append, eventsOfLines_append_of_notMem hfree]
  rfl

end Ended

namespace Decoder

/-- The decoder keeps of the lines of an open event what will make the event. -/
structure Keeps (d : Decoder) (lines : List Line) : Prop where
  name : d.name = (lines.filterMap (Line.value? "event")).getLast?
  data : d.data = (lines.filterMap (Line.value? "data")).reverse

variable {d : Decoder} {block : List Line}

theorem Keeps.dispatch (h : d.Keeps block) : d.dispatch? = RawEvent.ofLines? block := by
  have hname : d.name.isNone = true ↔ block.filterMap (Line.value? "event") = [] := by
    rw [h.name, Option.isNone_iff_eq_none, List.getLast?_eq_none_iff]
  have hdata : d.data.isEmpty = true ↔ block.filterMap (Line.value? "data") = [] := by
    rw [h.data, List.isEmpty_iff, List.reverse_eq_nil_iff]
  unfold dispatch? RawEvent.ofLines?
  simp only [hname, hdata]
  rw [h.name, h.data, List.reverse_reverse]

theorem Keeps.take (h : d.Keeps block) {l : Line} (hl : l ≠ .blank) :
    (d.take l).1.Keeps (block ++ [l]) ∧ (d.take l).2 = none := by
  obtain ⟨hname, hdata⟩ := h
  cases l with
  | blank => exact absurd rfl hl
  | comment =>
    refine ⟨⟨?_, ?_⟩, rfl⟩
    · simpa [Decoder.take, Line.value?] using hname
    · simpa [Decoder.take, Line.value?, List.filterMap_cons] using hdata
  | field name value =>
    by_cases hevent : name = "event"
    · subst hevent
      refine ⟨⟨?_, ?_⟩, rfl⟩
      · simp [Decoder.take, Line.value?]
      · simpa [Decoder.take, Line.value?] using hdata
    · by_cases hisData : name = "data"
      · subst hisData
        refine ⟨⟨?_, ?_⟩, rfl⟩
        · simpa [Decoder.take, Line.value?] using hname
        · simp [Decoder.take, Line.value?, hdata]
      · have htake : d.take (.field name value) = (d, none) := by
          simp [Decoder.take, hevent, hisData]
        rw [htake]
        refine ⟨⟨?_, ?_⟩, rfl⟩
        · simpa [Line.value?, hevent] using hname
        · simpa [Line.value?, hisData] using hdata

/-- The events that complete lines end, whatever lines of the first event came before. -/
theorem Keeps.takes (h : d.Keeps block) (hblock : .blank ∉ block) (lines : List (List UInt8)) :
    (d.takes lines).2 = eventsOfLines (block ++ lines.map Line.ofBytes) := by
  induction lines generalizing d block with
  | nil =>
    rw [List.map_nil, List.append_nil, eventsOfLines_of_notMem hblock]
    rfl
  | cons line lines ih =>
    have htakes : (d.takes (line :: lines)).2 =
        (d.take (.ofBytes line)).2.toList ++ ((d.take (.ofBytes line)).1.takes lines).2 := rfl
    rw [htakes, List.map_cons]
    by_cases hblank : Line.ofBytes line = .blank
    · have hanew : (d.take .blank).1.Keeps [] := ⟨rfl, rfl⟩
      have hevent : (d.take .blank).2 = RawEvent.ofLines? block := h.dispatch
      rw [hblank, eventsOfLines_append_blank hblock, hevent, ih hanew List.not_mem_nil]
      rfl
    · obtain ⟨hnext, hnone⟩ := h.take hblank
      have hopen : .blank ∉ block ++ [Line.ofBytes line] := by simp [hblock, Ne.symm hblank]
      rw [hnone, ih hnext hopen, List.append_assoc]
      rfl

theorem found_eq_bodyEvents {body : List UInt8} (h : Bounded body) :
    found {} body = bodyEvents body := by
  obtain ⟨last, hsplit, hbody, hlast⟩ := exists_open body
  have hlines : ∀ line ∈ endedLines body, lineFeed ∉ line := fun _ => notMem_of_mem_endedLines
  have hsizes : ∀ line ∈ endedLines body, line.length ≤ maxLine := fun line hline =>
    h line (List.dropLast_subset _ hline)
  have hstart : AtStart {} := ⟨rfl, rfl⟩
  have hkeeps : Keeps {} [] := ⟨rfl, rfl⟩
  obtain ⟨-, hfound⟩ := hstart.feed_lines hlines hsizes
  have hevents : (takes {} (endedLines body)).2 = bodyEvents body :=
    hkeeps.takes List.not_mem_nil _
  calc found {} body
      = found {} ((endedLines body).flatMap (· ++ [lineFeed]) ++ last) := congrArg _ hbody
    _ = (takes {} (endedLines body)).2 ++ [] := by
        rw [found_append, hfound, found_of_notMem hlast]
    _ = bodyEvents body := by rw [List.append_nil, hevents]

end Decoder

/-- What is answered to an event of a route: the event, or what is wrong with its data. -/
def RawEvent.outcome (raw : RawEvent) (action : Action) : Answer :=
  match Mapping.ofJson? raw.data with
  | .ok mapping => .ok ⟨action, mapping⟩
  | .error fault => .error (.decode fault)

theorem RawEvent.answer?_eq (raw : RawEvent) :
    raw.answer? = (Action.ofName? raw.name).map raw.outcome := by
  unfold answer? meaning outcome
  cases Action.ofName? raw.name with
  | none => rfl
  | some action =>
    dsimp only [Option.map_some]
    cases Mapping.ofJson? raw.data <;> rfl

namespace Subscription

variable {s : Subscription}

/-- What a subscription can be asked for. -/
inductive Use where
  | next | close
  deriving DecidableEq

/-- The answers to the calls among some uses. -/
def answered : Subscription → List Use → List Answer
  | _, [] => []
  | s, .next :: uses => s.next.answer :: s.next.after.answered uses
  | s, .close :: uses => s.close.answered uses

theorem answered_of_closed (h : s.closed = true) (uses : List Use) :
    s.answered uses = List.replicate (uses.count .next) (.error .closed) := by
  induction uses generalizing s with
  | nil => rfl
  | cons use uses ih =>
    cases use with
    | next =>
      have hnext : s.next = ⟨.error .closed, s, []⟩ := by simp [next, h]
      rw [answered, hnext, ih h, List.count_cons_self, List.replicate_succ]
    | close =>
      have hclosed : s.close.closed = true := rfl
      have hcount : (Use.close :: uses).count .next = uses.count .next :=
        List.count_cons_of_ne (by decide)
      rw [answered, ih hclosed, hcount]

theorem answered_eq (s : Subscription) (uses : List Use) :
    s.answered uses = s.calls (uses.takeWhile (· = .next)).length ++
      List.replicate ((uses.dropWhile (· = .next)).count .next) (.error .closed) := by
  induction uses generalizing s with
  | nil => rfl
  | cons use uses ih =>
    cases use with
    | next => rw [answered, ih]; rfl
    | close =>
      have hclosed : s.close.closed = true := rfl
      have hcount : (Use.close :: uses).count .next = uses.count .next :=
        List.count_cons_of_ne (by decide)
      have hopen : (Use.close :: uses).takeWhile (· = .next) = [] := rfl
      have hshut : (Use.close :: uses).dropWhile (· = .next) = .close :: uses := rfl
      rw [answered, answered_of_closed hclosed, hopen, hshut, hcount]
      rfl

/-- The answers after the last event of a body: its end, once, and then nothing any more. -/
def ending (n : Nat) : List Answer := .error .ended :: List.replicate n (.error .closed)

theorem calls_ended (n m : Nat) (h : n ≤ m) (d : Decoder) :
    calls n ⟨some [], d, [], false⟩ = (ending m).take n := by
  have hover (k : Nat) : calls k ⟨none, d, [], false⟩ = List.replicate k (.error .closed) := by
    induction k with
    | zero => rfl
    | succ k ih =>
      have hnext : next ⟨none, d, [], false⟩ = ⟨.error .closed, ⟨none, d, [], false⟩, []⟩ := rfl
      rw [calls, hnext, ih, List.replicate_succ]
  cases n with
  | zero => rfl
  | succ n =>
    have hnext : next ⟨some [], d, [], false⟩ = ⟨.error .ended, ⟨none, d, [], false⟩, []⟩ := rfl
    have hmin : min n m = n := by omega
    rw [calls, hnext, hover, ending, List.take_succ_cons, List.take_replicate, hmin]

theorem calls_body {chunks : List (List UInt8)} (h : Bounded chunks.flatten) {n m : Nat}
    (hle : n ≤ m) :
    calls n { body := some (chunks.map .chunk) } =
      (answers (bodyEvents chunks.flatten) ++ ending m).take n := by
  have hfits : (({} : Decoder).after chunks.flatten).overlong = false :=
    (Decoder.live_start.overlong_iff _).2 h
  have hfound : ({} : Decoder).found chunks.flatten = bodyEvents chunks.flatten :=
    Decoder.found_eq_bodyEvents h
  have hall : calls ((answers (({} : Decoder).found chunks.flatten)).length + n)
      ⟨some (chunks.map .chunk ++ []), {}, [], false⟩ = _ := calls_chunks hfits n
  rw [hfound, List.append_nil, calls_ended n m hle] at hall
  generalize answers (bodyEvents chunks.flatten) = due at hall ⊢
  have hmore : n ≤ due.length + n := by omega
  have hmin : min (n - due.length) n = n - due.length := by omega
  rw [← take_calls hmore, hall, List.take_append, List.take_append, List.take_take, hmin]

/-- However a body without overlong lines is cut into chunks, the calls before the first closing are
answered by its events one after another, those of other types left out, then by its end, once, and
then by nothing; so are all calls after a closing. An event without its blank line is none. -/
theorem answered_body {body : List UInt8}
    (hbody : ∀ line ∈ body.splitOn lineFeed, line.length ≤ maxLine) {chunks : List (List UInt8)}
    (hchunks : chunks.flatten = body) (uses : List Use) :
    answered { body := some (chunks.map .chunk) } uses =
      ((bodyEvents body).filterMap (fun raw => (Action.ofName? raw.name).map raw.outcome) ++
          ending uses.length).take (uses.takeWhile (· = .next)).length ++
        List.replicate ((uses.dropWhile (· = .next)).count .next) (.error .closed) ∧
    ∀ before rest, body = before ++ rest → (before = [] ∨ before.getLast? = some lineFeed) →
      (∀ line ∈ endedLines rest, Line.ofBytes line ≠ .blank) →
        bodyEvents body = bodyEvents before := by
  subst hchunks
  constructor
  · have hle : (uses.takeWhile (· = .next)).length ≤ uses.length :=
      (List.takeWhile_sublist _).length_le
    have hanswers : answers (bodyEvents chunks.flatten) =
        (bodyEvents chunks.flatten).filterMap
          fun raw => (Action.ofName? raw.name).map raw.outcome :=
      List.filterMap_congr fun raw _ => raw.answer?_eq
    rw [answered_eq, calls_body hbody hle, hanswers]
  · rintro before rest hsplit hstart hopen
    rw [hsplit]
    exact bodyEvents_append_of_open hstart hopen

/-- An event, one of another type, one with data that cannot be read, and one without its end. -/
def mixedChunks : List (List UInt8) := finished ++ [unfinished]
where
  finished : List (List UInt8) :=
    [Utf8.bytes "event: Upsert\ndata: \x7b\"port\":1024,\"backend_ip\":", [],
      Utf8.bytes "\"a\",\"backend_port\":80\x7d\r\n\r",
      Utf8.bytes "\nevent: Ping\n\nevent: Delete\ndata: x\n\n"]
  unfinished : List UInt8 :=
    Utf8.bytes "event: Delete\ndata: \x7b\"port\":1,\"backend_ip\":\"a\",\"backend_port\":2\x7d\n"

theorem answered_mixed :
    (∀ line ∈ mixedChunks.flatten.splitOn lineFeed, line.length ≤ maxLine) ∧
    answered { body := some (mixedChunks.map .chunk) } [.next, .next, .next, .next, .close, .next] =
      [.ok ⟨.upsert, { (default : Mapping) with port := 1024, address := "a", serverPort := 80 }⟩,
        .error (.decode .malformed), .error .ended, .error .closed, .error .closed] ∧
    bodyEvents mixedChunks.flatten = bodyEvents mixedChunks.finished.flatten := by
  have hbody : ∀ line ∈ mixedChunks.flatten.splitOn lineFeed, line.length ≤ maxLine := by
    decide +kernel
  obtain ⟨hanswered, hopen⟩ :=
    answered_body hbody rfl [.next, .next, .next, .next, .close, .next]
  have hevents : bodyEvents mixedChunks.flatten =
      [⟨"Upsert", "\x7b\"port\":1024,\"backend_ip\":\"a\",\"backend_port\":80\x7d"⟩,
        ⟨"Ping", ""⟩, ⟨"Delete", "x"⟩] := by decide +kernel
  refine ⟨hbody, ?_, ?_⟩
  · rw [hanswered, hevents]
    decide +kernel
  · have hsplit : mixedChunks.flatten = mixedChunks.finished.flatten ++ mixedChunks.unfinished := by
      simp [mixedChunks]
    exact hopen _ _ hsplit (.inr (by decide +kernel)) (by decide +kernel)

end Subscription
end RouteSync.Stream
