import Mathlib.Data.List.Induction
import RouteSync.Proofs.Stream.Decoder
import RouteSync.Stream.Subscription

/-! What a subscription answers call after call: the events of its chunks in their order, until a
chunk brings a line that is too long. -/
namespace RouteSync.Stream

open Http

/-- What is answered to an event, if it means something. -/
def RawEvent.answer? (raw : RawEvent) : Option Answer :=
  match raw.meaning with
  | .skipped _ => none
  | .event e => some (.ok e)
  | .fault f => some (.error (.decode f))

def answers (raws : List RawEvent) : List Answer := raws.filterMap RawEvent.answer?

theorem answers_append (raws more : List RawEvent) :
    answers (raws ++ more) = answers raws ++ answers more := List.filterMap_append

/-- The answer after which nothing of a stream is read any more. -/
def tooLong : Answer := .error (.lineTooLong maxLine)

theorem skim_cons_of_skipped {raw : RawEvent} (h : raw.answer? = none) (raws : List RawEvent) :
    (skim (raw :: raws)).answer = (skim raws).answer ∧
      (skim (raw :: raws)).rest = (skim raws).rest := by
  unfold RawEvent.answer? at h
  split at h
  · rename_i hmeaning
    simp [skim, hmeaning]
  · cases h
  · cases h

theorem skim_cons_of_answer {raw : RawEvent} {a : Answer} (h : raw.answer? = some a)
    (raws : List RawEvent) : (skim (raw :: raws)).answer = some a ∧
      (skim (raw :: raws)).rest = raws := by
  unfold RawEvent.answer? at h
  split at h
  · cases h
  · rename_i hmeaning
    obtain rfl := Option.some.inj h
    simp [skim, hmeaning]
  · rename_i hmeaning
    obtain rfl := Option.some.inj h
    simp [skim, hmeaning]

namespace Subscription

/-- The answers to some calls in a row. -/
def calls : Nat → Subscription → List Answer
  | 0, _ => []
  | n + 1, s => s.next.answer :: calls n s.next.after

/-- Two subscriptions that answer the next call alike and go on alike. -/
def Alike (s s' : Subscription) : Prop :=
  s.next.answer = s'.next.answer ∧ s.next.after = s'.next.after

theorem Alike.calls_eq {s s' : Subscription} (h : s.Alike s') (n : Nat) : s.calls n = s'.calls n := by
  cases n with
  | zero => rfl
  | succ n => rw [calls, calls, h.1, h.2]

/-- Reading on depends on the decoder and on what is delivered alone. -/
theorem pull_congr (body body' : Option (List Delivery)) (d : Decoder)
    (raws raws' : List RawEvent) (closed : Bool) (log log' : List Log.Record)
    (ds : List Delivery) :
    (pull ⟨body, d, raws, closed⟩ log ds).answer = (pull ⟨body', d, raws', closed⟩ log' ds).answer ∧
      (pull ⟨body, d, raws, closed⟩ log ds).after =
        (pull ⟨body', d, raws', closed⟩ log' ds).after := by
  induction ds generalizing d log log' with
  | nil => exact ⟨rfl, rfl⟩
  | cons delivery ds ih =>
    cases delivery with
    | failure => exact ⟨rfl, rfl⟩
    | chunk bytes =>
      unfold pull
      dsimp only
      split
      · exact ⟨rfl, rfl⟩
      · split
        · exact ⟨rfl, rfl⟩
        · exact ih _ _ _

variable {body : Option (List Delivery)} {ds : List Delivery} {d : Decoder}
  {raws : List RawEvent}

theorem next_of_answer {a : Answer} (h : (skim raws).answer = some a) :
    next ⟨body, d, raws, false⟩ = ⟨a, ⟨body, d, (skim raws).rest, false⟩, (skim raws).log⟩ := by
  simp [next, h]

theorem next_of_none (h : (skim raws).answer = none) :
    next ⟨some ds, d, raws, false⟩ = pull ⟨some ds, d, raws, false⟩ (skim raws).log ds := by
  simp [next, h]

theorem alike_of_skipped {raw : RawEvent} (h : raw.answer? = none) :
    Alike ⟨body, d, raw :: raws, false⟩ ⟨body, d, raws, false⟩ := by
  obtain ⟨hanswer, hrest⟩ := skim_cons_of_skipped h raws
  cases hfound : (skim raws).answer with
  | some a =>
    rw [Alike, next_of_answer hfound, next_of_answer (hanswer.trans hfound), hrest]
    exact ⟨rfl, rfl⟩
  | none =>
    cases body with
    | none => simp [Alike, next, hanswer, hfound]
    | some ds =>
      rw [Alike, next_of_none hfound, next_of_none (hanswer.trans hfound)]
      exact pull_congr _ _ d _ _ false _ _ ds

/-- Events that are complete are answered before anything new is read. -/
theorem calls_pending (n : Nat) :
    calls ((answers raws).length + n) ⟨body, d, raws, false⟩ =
      answers raws ++ calls n ⟨body, d, [], false⟩ := by
  induction raws with
  | nil => simp [answers]
  | cons raw raws ih =>
    cases h : raw.answer? with
    | none =>
      have hanswers : answers (raw :: raws) = answers raws := List.filterMap_cons_none h
      rw [hanswers, (alike_of_skipped h).calls_eq, ih]
    | some a =>
      have hanswers : answers (raw :: raws) = a :: answers raws := List.filterMap_cons_some h
      obtain ⟨hanswer, hrest⟩ := skim_cons_of_answer h raws
      have hnext : next ⟨body, d, raw :: raws, false⟩ =
          ⟨a, ⟨body, d, raws, false⟩, (skim (raw :: raws)).log⟩ := by
        simp [next, hanswer, hrest]
      rw [hanswers, List.length_cons, Nat.add_right_comm, calls, hnext, ih, List.cons_append]

/-- A chunk that is read without a fault makes its events pending. -/
theorem alike_of_chunk {d' : Decoder} {bytes : List UInt8}
    (h : d.push bytes = (d', some raws)) :
    Alike ⟨some (.chunk bytes :: ds), d, [], false⟩ ⟨some ds, d', raws, false⟩ := by
  have hempty : (skim []).answer = none := rfl
  rw [Alike, next_of_none hempty, pull, h]
  cases hfound : (skim raws).answer with
  | some a =>
    rw [next_of_answer hfound]
    simp [hfound]
  | none =>
    rw [next_of_none hfound]
    simp only [hfound]
    exact pull_congr _ _ d' _ _ false _ _ ds

theorem calls_chunks {chunks : List (List UInt8)}
    (h : (d.after chunks.flatten).overlong = false) (n : Nat) :
    calls ((answers (d.found chunks.flatten)).length + n)
        ⟨some (chunks.map .chunk ++ ds), d, [], false⟩ =
      answers (d.found chunks.flatten) ++
        calls n ⟨some ds, d.after chunks.flatten, [], false⟩ := by
  induction chunks generalizing d with
  | nil => simp [Decoder.found, Decoder.after, answers]
  | cons chunk chunks ih =>
    rw [List.flatten_cons] at h ⊢
    have hpush : d.push chunk = (d.after chunk, some (d.found chunk)) := by
      rw [Decoder.push_eq, Decoder.overlong_of_append h]
      rfl
    rw [Decoder.after_append] at h
    rw [Decoder.found_append, answers_append, List.length_append, Nat.add_assoc, List.map_cons,
      List.cons_append, (alike_of_chunk hpush).calls_eq, calls_pending, ih h, Decoder.after_append,
      List.append_assoc]

theorem calls_of_overlong {bytes : List UInt8} (h : (d.after bytes).overlong = true) :
    calls 1 ⟨some (.chunk bytes :: ds), d, [], false⟩ = [tooLong] := by
  have hpush : d.push bytes = (d.after bytes, none) := by
    rw [Decoder.push_eq, h]
    rfl
  simp [calls, next, skim, pull, hpush, tooLong]

end Subscription

/-- The bytes before the first line that is too long. -/
def beforeOverlong (stream : List UInt8) : List UInt8 :=
  ((stream.splitOn lineFeed).takeWhile fun line => line.length ≤ maxLine).flatMap (· ++ [lineFeed])

theorem beforeOverlong_append_cons {line : List UInt8} (hline : lineFeed ∉ line)
    (hle : line.length ≤ maxLine) (rest : List UInt8) :
    beforeOverlong (line ++ lineFeed :: rest) = line ++ lineFeed :: beforeOverlong rest := by
  rw [beforeOverlong, List.splitOn_append_cons_self_of_not_mem hline, List.takeWhile_cons_of_pos
    (by simpa using hle), List.flatMap_cons, List.append_assoc]
  rfl

theorem beforeOverlong_of_long {long : List UInt8} (hline : lineFeed ∉ long)
    (hlong : maxLine < long.length) (rest : List UInt8) : beforeOverlong (long ++ rest) = [] := by
  obtain ⟨more, lines, hsplit⟩ := splitOn_append_of_notMem hline rest
  have hmore : ¬ (long ++ more).length ≤ maxLine := by
    rw [List.length_append]
    omega
  rw [beforeOverlong, hsplit, List.takeWhile_cons_of_neg (by simpa using hmore)]
  rfl

/-- A stream with an overlong line is what comes before the first one, that line, and a rest. Where
lines start does not change with what comes before. -/
theorem exists_overlong {stream : List UInt8} (h : ¬ Bounded stream) :
    ∃ long rest, stream = beforeOverlong stream ++ (long ++ rest) ∧ lineFeed ∉ long ∧
      maxLine < long.length ∧ Bounded (beforeOverlong stream) ∧
      ∀ bytes, Bounded (beforeOverlong stream ++ bytes) → Bounded bytes := by
  induction hn : stream.length using Nat.strongRecOn generalizing stream with
  | _ n ih =>
    by_cases hmem : lineFeed ∈ stream
    · obtain ⟨line, tail, rfl, hline⟩ := List.eq_append_cons_of_mem hmem
      by_cases hle : line.length ≤ maxLine
      · have htail : ¬ Bounded tail := fun hb => h ((bounded_append_cons hline tail).2 ⟨hle, hb⟩)
        have hlt : tail.length < n := by
          rw [← hn, List.length_append, List.length_cons]
          omega
        obtain ⟨long, rest, hsplit, hlong, hlen, hbounded, hstart⟩ := ih tail.length hlt htail rfl
        rw [beforeOverlong_append_cons hline hle]
        refine ⟨long, rest, ?_, hlong, hlen, ?_, fun bytes hbytes => ?_⟩
        · rw [List.append_assoc, List.cons_append, ← hsplit]
        · exact (bounded_append_cons hline _).2 ⟨hle, hbounded⟩
        · rw [List.append_assoc, List.cons_append, bounded_append_cons hline] at hbytes
          exact hstart bytes hbytes.2
      · have hlong : maxLine < line.length := Nat.lt_of_not_le hle
        rw [beforeOverlong_of_long hline hlong]
        exact ⟨line, lineFeed :: tail, rfl, hline, hlong, bounded_nil, fun _ hb => hb⟩
    · have hlong : maxLine < stream.length :=
        Nat.lt_of_not_le fun hle => h ((bounded_iff_of_notMem hmem).2 hle)
      have hbefore := beforeOverlong_of_long hmem hlong []
      rw [List.append_nil] at hbefore
      rw [hbefore]
      exact ⟨stream, [], (List.append_nil _).symm, hmem, hlong, bounded_nil, fun _ hb => hb⟩

/-- Whatever a start of a stream without overlong lines completes comes before the first of them. -/
theorem exists_lost {early rest : List UInt8} (hlong : ¬ Bounded (early ++ rest))
    (hearly : Bounded early) (d : Decoder) :
    ∃ lost, d.found (beforeOverlong (early ++ rest)) = d.found early ++ lost := by
  obtain ⟨long, after, hsplit, hline, hlen, -, hstart⟩ := exists_overlong hlong
  generalize beforeOverlong (early ++ rest) = before at hsplit hstart ⊢
  rcases List.append_eq_append_iff.1 hsplit with ⟨more, rfl, -⟩ | ⟨more, rfl, hmore⟩
  · exact ⟨(d.after early).found more, d.found_append early more⟩
  · -- The start goes on into the overlong line, but not to its end.
    have hopen : lineFeed ∉ more := by
      rcases List.append_eq_append_iff.1 hmore with ⟨tail, rfl, -⟩ | ⟨tail, rfl, -⟩
      · exact absurd ((hstart _ hearly).length_le hline) (Nat.not_le_of_lt hlen)
      · exact fun hmem => hline (List.mem_append_left _ hmem)
    refine ⟨[], ?_⟩
    rw [Decoder.found_append, Decoder.found_of_notMem hopen]
    simp

/-- What holds of no items and does not hold of all is lost with some item first. -/
theorem exists_first {α : Type} {P : List α → Prop} (hnil : P []) {xs : List α} (h : ¬ P xs) :
    ∃ early x later, xs = early ++ x :: later ∧ P early ∧ ¬ P (early ++ [x]) := by
  induction xs using List.reverseRecOn with
  | nil => exact absurd hnil h
  | append_singleton xs x ih =>
    by_cases hxs : P xs
    · exact ⟨xs, x, [], rfl, hxs, h⟩
    · obtain ⟨early, y, later, rfl, hearly, hy⟩ := ih hxs
      exact ⟨early, y, later ++ [x], by simp, hearly, hy⟩

theorem tooLong_ne_of_answer {raw : RawEvent} {a : Answer} (h : raw.answer? = some a) :
    a ≠ tooLong := by
  unfold RawEvent.answer? at h
  split at h
  · cases h
  · obtain rfl := Option.some.inj h
    exact nofun
  · obtain rfl := Option.some.inj h
    exact nofun

namespace Subscription

theorem length_calls (n : Nat) (s : Subscription) : (s.calls n).length = n := by
  induction n generalizing s with
  | zero => rfl
  | succ n ih => rw [calls, List.length_cons, ih]

theorem take_calls {m n : Nat} (h : m ≤ n) (s : Subscription) : (s.calls n).take m = s.calls m := by
  induction m generalizing n s with
  | zero => rfl
  | succ m ih =>
    obtain ⟨n, rfl⟩ := Nat.exists_eq_succ_of_ne_zero (Nat.ne_of_gt (Nat.lt_of_lt_of_le
      (Nat.succ_pos m) h))
    rw [calls, calls, List.take_succ_cons, ih (Nat.le_of_succ_le_succ h)]

/-- Calls that end with a line that is too long answer nothing after it. -/
theorem answers_eq_nil_of_calls {s : Subscription} {got lost : List RawEvent} {n : Nat}
    (hgot : s.calls ((answers got).length + 1) = answers got ++ [tooLong])
    (hall : s.calls (n + 1) = answers (got ++ lost) ++ [tooLong]) : answers lost = [] := by
  rw [answers_append, List.append_assoc] at hall
  have hlen := congrArg List.length hall
  simp only [length_calls, List.length_append, List.length_singleton] at hlen
  have hprefix : (answers got).length + 1 ≤ n + 1 := by omega
  have htake := take_calls hprefix s
  rw [hall, hgot, List.take_length_add_append, List.append_cancel_left_eq] at htake
  cases hlost : answers lost with
  | nil => rfl
  | cons a more =>
    rw [hlost, List.cons_append, List.take_succ_cons, List.take_zero, List.singleton_inj] at htake
    have hmem : a ∈ answers lost := hlost ▸ List.mem_cons_self
    obtain ⟨raw, -, hraw⟩ := List.mem_filterMap.1 hmem
    exact absurd htake (tooLong_ne_of_answer hraw)

/-- The calls up to the first one that finds a line too long answer all events due before that line
just when its chunk completes none of them that means anything. -/
theorem all_due_answered_iff {chunks : List (List UInt8)}
    (hlong : ∃ line ∈ chunks.flatten.splitOn lineFeed, maxLine < line.length) :
    ∃ early bad later got lost, chunks = early ++ bad :: later ∧
      Bounded early.flatten ∧ ¬ Bounded (early ++ [bad]).flatten ∧
      (({} : Decoder).push early.flatten).2 = some got ∧
      (({} : Decoder).push (beforeOverlong chunks.flatten)).2 = some (got ++ lost) ∧
      calls ((answers got).length + 1) { body := some (chunks.map .chunk) } =
        answers got ++ [tooLong] ∧
      ((∃ n, calls (n + 1) { body := some (chunks.map .chunk) } =
          answers (got ++ lost) ++ [tooLong]) ↔ answers lost = []) := by
  have hunbounded : ¬ Bounded chunks.flatten := fun hb => by
    obtain ⟨line, hline, hlen⟩ := hlong
    exact absurd (hb line hline) (Nat.not_le_of_lt hlen)
  obtain ⟨early, bad, later, rfl, hearly, hbad⟩ :=
    exists_first (P := fun chunks => Bounded chunks.flatten) bounded_nil hunbounded
  obtain ⟨-, -, -, -, -, hbefore, -⟩ := exists_overlong hunbounded
  have hflat : (early ++ bad :: later).flatten = early.flatten ++ (bad :: later).flatten :=
    List.flatten_append
  obtain ⟨lost, hdue⟩ := exists_lost (hflat ▸ hunbounded) hearly {}
  rw [← hflat] at hdue
  have hfits {bytes : List UInt8} (hb : Bounded bytes) :
      (({} : Decoder).after bytes).overlong = false := (Decoder.live_start.overlong_iff bytes).2 hb
  have hstops : ((({} : Decoder).after early.flatten).after bad).overlong = true := by
    rw [← Decoder.after_append]
    refine (Decoder.live_start.after_iff _).2 ?_
    simpa using hbad
  have hcalls : calls ((answers (({} : Decoder).found early.flatten)).length + 1)
      { body := some ((early ++ bad :: later).map .chunk) } =
        answers (({} : Decoder).found early.flatten) ++ [tooLong] := by
    rw [List.map_append, List.map_cons, calls_chunks (hfits hearly), calls_of_overlong hstops]
  refine ⟨early, bad, later, ({} : Decoder).found early.flatten, lost, rfl, hearly, hbad, ?_, ?_,
    hcalls, fun ⟨n, hn⟩ => answers_eq_nil_of_calls hcalls hn, fun hlost => ?_⟩
  · rw [Decoder.push_eq, hfits hearly]
    rfl
  · rw [Decoder.push_eq, hfits hbefore, hdue]
    rfl
  · exact ⟨_, by rw [hcalls, answers_append, hlost, List.append_nil]⟩

def nameLine : List UInt8 := Text.Utf8.bytes "event: Delete"

def dataLine : List UInt8 :=
  Text.Utf8.bytes "data: \x7b\"port\":1024,\"backend_ip\":\"10.0.0.1\",\"backend_port\":80\x7d"

/-- The withdrawal of a route, and what comes after it. -/
def withdrawalThen (rest : List UInt8) : List UInt8 :=
  nameLine ++ lineFeed :: (dataLine ++ lineFeed :: ([] ++ lineFeed :: rest))

def withdrawal : RawEvent :=
  ⟨"Delete", "\x7b\"port\":1024,\"backend_ip\":\"10.0.0.1\",\"backend_port\":80\x7d"⟩

def overlongLine : List UInt8 := List.replicate (maxLine + 1) 120

theorem lineFeed_notMem_overlongLine : lineFeed ∉ overlongLine := fun h =>
  absurd (List.eq_of_mem_replicate h) (by decide)

theorem lt_length_overlongLine : maxLine < overlongLine.length := by
  rw [overlongLine, List.length_replicate]
  exact Nat.lt_succ_self maxLine

theorem exists_overlong_after_withdrawal :
    ∃ line ∈ (withdrawalThen overlongLine).splitOn lineFeed, maxLine < line.length := by
  have hname : lineFeed ∉ nameLine := by decide +kernel
  have hdata : lineFeed ∉ dataLine := by decide +kernel
  refine ⟨overlongLine, ?_, lt_length_overlongLine⟩
  rw [withdrawalThen, List.splitOn_append_cons_self_of_not_mem hname,
    List.splitOn_append_cons_self_of_not_mem hdata,
    List.splitOn_append_cons_self_of_not_mem List.not_mem_nil,
    List.splitOn_eq_singleton lineFeed_notMem_overlongLine]
  simp

theorem push_before_overlong_after_withdrawal :
    (({} : Decoder).push (beforeOverlong (withdrawalThen overlongLine))).2 = some [withdrawal] := by
  have hname : lineFeed ∉ nameLine ∧ nameLine.length ≤ maxLine := by decide +kernel
  have hdata : lineFeed ∉ dataLine ∧ dataLine.length ≤ maxLine := by decide +kernel
  have hnone := beforeOverlong_of_long lineFeed_notMem_overlongLine lt_length_overlongLine []
  rw [List.append_nil] at hnone
  rw [withdrawalThen, beforeOverlong_append_cons hname.1 hname.2,
    beforeOverlong_append_cons hdata.1 hdata.2,
    beforeOverlong_append_cons List.not_mem_nil (Nat.zero_le _), hnone]
  decide +kernel

/-- An overlong line in a chunk of its own. -/
theorem withdrawal_answered_before_overlong_chunk :
    (∃ line ∈ [withdrawalThen [], overlongLine].flatten.splitOn lineFeed,
      maxLine < line.length) ∧
    ∃ early bad later got lost, [withdrawalThen [], overlongLine] = early ++ bad :: later ∧
      (({} : Decoder).push early.flatten).2 = some got ∧
      [withdrawal] = got ++ lost ∧
      ((∃ n, calls (n + 1)
          { body := some ([withdrawalThen [], overlongLine].map .chunk) } =
          answers [withdrawal] ++ [tooLong]) ↔ answers lost = []) := by
  have hflat : [withdrawalThen [], overlongLine].flatten = withdrawalThen overlongLine := by
    simp [withdrawalThen]
  have hlong : ∃ line ∈ [withdrawalThen [], overlongLine].flatten.splitOn lineFeed,
      maxLine < line.length := hflat ▸ exists_overlong_after_withdrawal
  obtain ⟨early, bad, later, got, lost, hchunks, -, -, hgot, hdue, -, hiff⟩ :=
    all_due_answered_iff hlong
  rw [hflat, push_before_overlong_after_withdrawal] at hdue
  rw [← Option.some.inj hdue] at hiff
  exact ⟨hlong, early, bad, later, got, lost, hchunks, hgot, Option.some.inj hdue, hiff⟩

/-- An overlong line in the chunk of an event that is complete before it. -/
theorem withdrawal_lost_in_overlong_chunk :
    (∃ line ∈ [withdrawalThen overlongLine].flatten.splitOn lineFeed, maxLine < line.length) ∧
    (({} : Decoder).push (beforeOverlong [withdrawalThen overlongLine].flatten)).2 =
      some [withdrawal] ∧
    ¬ ∃ n, calls (n + 1) { body := some ([withdrawalThen overlongLine].map .chunk) } =
      answers [withdrawal] ++ [tooLong] := by
  rw [List.flatten_singleton]
  refine ⟨exists_overlong_after_withdrawal, push_before_overlong_after_withdrawal,
    fun ⟨n, hn⟩ => ?_⟩
  have hunbounded : ¬ Bounded (withdrawalThen overlongLine) := fun hb => by
    obtain ⟨line, hline, hlen⟩ := exists_overlong_after_withdrawal
    exact absurd (hb line hline) (Nat.not_le_of_lt hlen)
  have hstops : (({} : Decoder).after (withdrawalThen overlongLine)).overlong = true :=
    (Decoder.live_start.after_iff _).2 hunbounded
  have hfirst : calls ((answers []).length + 1)
      { body := some ([withdrawalThen overlongLine].map .chunk) } = answers [] ++ [tooLong] :=
    calls_of_overlong hstops
  have hnone : answers [withdrawal] = [] := answers_eq_nil_of_calls hfirst hn
  have hone : (answers [withdrawal]).length = 1 := by decide +kernel
  rw [hnone] at hone
  cases hone

end Subscription
end RouteSync.Stream
