import BenchSweep.Proofs.Execution
import BenchSweep.Proofs.Text.Lossy
import BenchSweep.Proofs.Text.Pieces
import Mathlib.Data.List.DropRight

/-! The output of a command as a whole. The bytes are cut at line feeds before they are decoded, and
come in reads that end anywhere; the lines are those of the text that all of them are. -/
set_option autoImplicit false

namespace BenchSweep

namespace Output

/-! ## Reads -/

theorem feed_append (pending : Pending) (s t : List UInt8) :
    feed pending (s ++ t) =
      ((feed pending s).1 ++ (feed (feed pending s).2 t).1, (feed (feed pending s).2 t).2) := by
  fun_induction feed pending s with
  | case1 => rfl
  | case2 pending rest lines last h ih =>
    rw [List.cons_append, feed, if_pos rfl, ih, h]
    rfl
  | case3 pending b rest hb ih => rw [List.cons_append, feed, if_neg hb, ih]

theorem feedAll_eq (pending : Pending) (reads : List (List UInt8)) :
    feedAll pending reads = feed pending reads.flatten := by
  induction reads generalizing pending with
  | nil => rfl
  | cons read rest ih =>
    rw [feedAll, List.flatten_cons, feed_append]
    dsimp only
    rw [ih]

/-- What is complete and what is open are the pieces between line feeds. -/
theorem feed_eq_splitWhere {pending : Pending} (h : lineFeed ∉ pending) (s : List UInt8) :
    (feed pending s).1 ++ [(feed pending s).2.reverse] =
      Text.splitWhere (· == lineFeed) (pending.reverse ++ s) := by
  have hopen {p : Pending} (hp : lineFeed ∉ p) :
      Text.splitWhere (· == lineFeed) p.reverse = [p.reverse] :=
    Text.splitWhere_of_not_mem (mt List.mem_reverse.1 hp)
  induction s generalizing pending with
  | nil =>
    rw [List.append_nil, hopen h]
    rfl
  | cons b rest ih =>
    by_cases hb : b = lineFeed
    · subst hb
      rw [Text.splitWhere_append (by rfl), hopen h, ← List.nil_append rest,
        ← List.reverse_nil, ← ih List.not_mem_nil, feed, if_pos rfl]
      rfl
    · have hmore : lineFeed ∉ b :: pending := by
        intro hm
        rcases List.mem_cons.1 hm with e | hm
        · exact hb e.symm
        · exact h hm
      rw [feed, if_neg hb, ih hmore]
      simp

theorem length_feed (pending : Pending) (s : List UInt8) :
    (feed pending s).1.length = s.count lineFeed := by
  fun_induction feed pending s with
  | case1 => rfl
  | case2 pending rest lines last h ih =>
    rw [List.count_cons_self, ← ih, h]
    rfl
  | case3 pending b rest hb ih => rw [ih, List.count_cons_of_ne hb]

theorem feed_open_eq_nil_iff (s : List UInt8) :
    (feed [] s).2 = [] ↔ s = [] ∨ s.getLast? = some lineFeed := by
  rcases List.eq_nil_or_concat s with rfl | ⟨t, b, rfl⟩
  · simp [feed]
  · rw [List.concat_eq_append, feed_append]
    by_cases hb : b = lineFeed <;> simp [feed, hb]

/-! ## Texts -/

/-- A text cut into pieces that a mark ends: nothing comes behind a mark at the end. -/
def ended {α : Type} (pieces : List (List α)) : List (List α) :=
  if pieces.getLast?.any List.isEmpty then pieces.dropLast else pieces

/-- The lines of a text. -/
def ofText (text : List Char) : List String :=
  (ended (Text.splitWhere (· == '\n') text)).map fun p => String.ofList (p.rdropWhile (· == '\r'))

theorem byteLines_eq (reads : List (List UInt8)) :
    byteLines reads = ended (Text.splitWhere (· == lineFeed) reads.flatten) := by
  have hs := feed_eq_splitWhere List.not_mem_nil reads.flatten
  rw [List.reverse_nil, List.nil_append] at hs
  unfold byteLines ended
  rw [← hs, feedAll_eq, List.getLast?_concat, List.dropLast_concat]
  by_cases h : (feed [] reads.flatten).2 = [] <;> simp [h]

theorem not_mem_decodeLossy {s : List UInt8} (hs : lineFeed ∉ s) :
    '\n' ∉ Text.Utf8.decodeLossy s := by
  intro hc
  obtain ⟨b, hb, he⟩ := Text.Utf8.mem_of_mem_decodeLossy (by decide) (by decide) hc
  exact hs ((UInt8.toNat_inj (b := lineFeed)).1 he ▸ hb)

/-- A text is cut where its bytes are. -/
theorem splitWhere_decodeLossy (s : List UInt8) :
    Text.splitWhere (· == '\n') (Text.Utf8.decodeLossy s) =
      (Text.splitWhere (· == lineFeed) s).map Text.Utf8.decodeLossy := by
  by_cases hs : lineFeed ∈ s
  · obtain ⟨before, after, rfl⟩ := List.append_of_mem hs
    rw [Text.Utf8.decodeLossy_append (by decide), Text.splitWhere_append (by rfl),
      Text.splitWhere_append (by rfl), List.map_append, splitWhere_decodeLossy before,
      splitWhere_decodeLossy after]
  · rw [Text.splitWhere_of_not_mem (not_mem_decodeLossy hs), Text.splitWhere_of_not_mem hs]
    rfl
termination_by s.length
decreasing_by all_goals subst_vars; simp only [List.length_append, List.length_cons]; omega

theorem ended_map {α β : Type} {f : List α → List β} (hf : ∀ p, f p = [] ↔ p = [])
    (pieces : List (List α)) : ended (pieces.map f) = (ended pieces).map f := by
  have hlast : (pieces.map f).getLast?.any List.isEmpty = pieces.getLast?.any List.isEmpty := by
    rw [List.getLast?_map, Option.any_map]
    congr 1
    funext p
    exact Bool.eq_iff_iff.2 (by simp [hf])
  unfold ended
  rw [hlast, apply_ite (List.map f), List.map_dropLast]

theorem lines_eq_ofText (reads : List (List UInt8)) :
    lines reads = ofText (Text.Utf8.decodeLossy reads.flatten) := by
  unfold lines ofText
  rw [byteLines_eq, splitWhere_decodeLossy, ended_map Text.Utf8.decodeLossy_eq_nil_iff, List.map_map]
  rfl

theorem length_lines (reads : List (List UInt8)) :
    (lines reads).length = reads.flatten.count lineFeed +
      (if reads.flatten = [] ∨ reads.flatten.getLast? = some lineFeed then 0 else 1) := by
  have hlast := feed_open_eq_nil_iff reads.flatten
  unfold lines byteLines
  rw [List.length_map, feedAll_eq, ← length_feed []]
  by_cases h : (feed [] reads.flatten).2 = []
  · rw [if_pos (hlast.1 h)]
    simp [h]
  · rw [if_neg (mt hlast.2 h)]
    simp [h]

theorem mem_ended {α : Type} {pieces : List (List α)} {p : List α} (h : p ∈ ended pieces) :
    p ∈ pieces := by
  unfold ended at h
  split at h
  · exact List.dropLast_subset _ h
  · exact h

theorem of_mem_ofText {text : List Char} {line : String} (h : line ∈ ofText text) :
    '\n' ∉ line.toList ∧ line.toList.getLast? ≠ some '\r' := by
  obtain ⟨p, hp, rfl⟩ := List.mem_map.1 h
  rw [String.toList_ofList]
  constructor
  · intro hm
    exact Text.not_mem_of_mem_splitWhere (mem_ended hp) ((List.rdropWhile_prefix _ p).subset hm)
  · intro hl
    obtain ⟨hne, hlast⟩ := List.mem_getLast?_eq_getLast hl
    have hnot := List.rdropWhile_last_not _ p hne
    rw [← hlast] at hnot
    exact hnot rfl

/-! ## Buffers -/

/-- What a reader takes that stops behind every line feed and at the end. -/
def buffers : List UInt8 → List (List UInt8)
  | [] => []
  | b :: rest => if b = lineFeed then [b] :: buffers rest else Text.consPiece b (buffers rest)

/-- The line in a buffer: all of it is decoded, and its end is cut off behind. -/
def bufferText (buffer : List UInt8) : String :=
  String.ofList ((Text.Utf8.decodeLossy buffer).rdropWhile fun c => c == '\n' || c == '\r')

theorem buffers_append {line : List UInt8} (h : lineFeed ∉ line) (after : List UInt8) :
    buffers (line ++ lineFeed :: after) = (line ++ [lineFeed]) :: buffers after := by
  induction line with
  | nil => exact if_pos rfl
  | cons b line ih =>
    obtain ⟨hb, hline⟩ := not_or.1 (mt List.mem_cons.2 h)
    rw [List.cons_append, buffers, if_neg (Ne.symm hb), ih hline]
    rfl

theorem buffers_of_not_mem {line : List UInt8} (h : lineFeed ∉ line) (hne : line ≠ []) :
    buffers line = [line] := by
  induction line with
  | nil => exact (hne rfl).elim
  | cons b line ih =>
    obtain ⟨hb, hline⟩ := not_or.1 (mt List.mem_cons.2 h)
    rw [buffers, if_neg (Ne.symm hb)]
    by_cases hnil : line = []
    · rw [hnil]
      rfl
    · rw [ih hline hnil]
      rfl

theorem rdropWhile_ends {s : List Char} (h : '\n' ∉ s) :
    (s.rdropWhile fun c => c == '\n' || c == '\r') = s.rdropWhile (· == '\r') := by
  induction s using List.reverseRecOn with
  | nil => rfl
  | append_singleton s c ih =>
    rw [List.mem_append, List.mem_singleton, not_or] at h
    have hc : (c == '\n') = false := beq_eq_false_iff_ne.2 (Ne.symm h.2)
    rw [List.rdropWhile_concat, List.rdropWhile_concat, hc, Bool.false_or, ih h.1]

theorem bufferText_eq_lineText {line ends : List UInt8} (h : lineFeed ∉ line)
    (he : ends = [] ∨ ends = [lineFeed]) : bufferText (line ++ ends) = lineText line := by
  have hline : lineText line =
      String.ofList ((Text.Utf8.decodeLossy line).rdropWhile (· == '\r')) := rfl
  rw [hline, ← rdropWhile_ends (not_mem_decodeLossy h), bufferText]
  rcases he with rfl | rfl
  · rw [List.append_nil]
  · rw [Text.Utf8.decodeLossy_append (by decide), (Text.Utf8.decodeLossy_eq_nil_iff []).2 rfl,
      List.rdropWhile_concat_pos _ _ _ (by decide)]

theorem ended_cons {α : Type} (p : List α) {pieces : List (List α)} (h : pieces ≠ []) :
    ended (p :: pieces) = p :: ended pieces := by
  obtain ⟨q, rest, rfl⟩ := List.exists_cons_of_ne_nil h
  unfold ended
  rw [List.getLast?_cons_cons, List.dropLast_cons_of_ne_nil h]
  split <;> rfl

/-- A line may as well be decoded with the line feed that ends it, if that is cut off behind. -/
theorem map_bufferText (s : List UInt8) :
    (buffers s).map bufferText = (ended (Text.splitWhere (· == lineFeed) s)).map lineText := by
  by_cases hs : lineFeed ∈ s
  · obtain ⟨line, after, rfl, hline⟩ := List.eq_append_cons_of_mem hs
    rw [buffers_append hline, Text.splitWhere_append (by rfl), Text.splitWhere_of_not_mem hline,
      List.singleton_append, ended_cons line (Text.splitWhere_ne_nil _ after), List.map_cons,
      List.map_cons, map_bufferText after, bufferText_eq_lineText hline (.inr rfl)]
  · rw [Text.splitWhere_of_not_mem hs]
    by_cases hnil : s = []
    · rw [hnil]
      rfl
    · have hended : ended [s] = [s] := if_neg (by simpa using hnil)
      have htext := bufferText_eq_lineText hs (.inl rfl)
      rw [List.append_nil] at htext
      rw [buffers_of_not_mem hs hnil, hended, List.map_singleton, List.map_singleton, htext]
termination_by s.length
decreasing_by subst_vars; simp only [List.length_append, List.length_cons]; omega

theorem lines_eq_buffers (reads : List (List UInt8)) :
    lines reads = (buffers reads.flatten).map bufferText := by
  rw [map_bufferText, ← byteLines_eq]
  rfl

end Output

/-! ## Sinks -/

variable {σ : Type}

/-- What a sink takes is heard, each line once and behind the others; messages are not. -/
structure Sink.Keeps (sink : Sink σ) (heard : World σ → List (String × String)) : Prop where
  line : ∀ source line w, heard (sink source line w) = heard w ++ [(source, line)]
  message : ∀ level message w, heard (w.told [⟨level, message, none⟩]) = heard w

namespace Sink.Keeps

variable {sink : Sink σ} {heard : World σ → List (String × String)}

theorem take (h : sink.Keeps heard) (source : String) (lines : List String) (w : World σ) :
    heard (sink.take source lines w) = heard w ++ lines.map (source, ·) := by
  induction lines generalizing w with
  | nil => exact (List.append_nil _).symm
  | cons line rest ih =>
    change heard (sink.take source rest (sink source line w)) = _
    rw [ih, h.line, List.append_assoc]
    rfl

theorem warnings (h : sink.Keeps heard) (policy : Policy) (code : Int) (w : World σ) :
    heard (w.told (policy.warnings code)) = heard w := by
  unfold Policy.warnings
  split
  · exact h.message _ _ w
  · rw [World.told_nil]

end Sink.Keeps

/-- The lines of commands among the messages. -/
def World.passedOn (w : World σ) : List (String × String) :=
  w.log.filterMap fun e => e.command.map (·, e.message)

theorem logSink_keeps : (logSink : Sink σ).Keeps World.passedOn where
  line source line w := by simp [logSink, World.passedOn]
  message level message w := by simp [World.told, World.passedOn]

/-! ## Capture -/

/-- However the output of a process was cut into reads, its lines are those of the text that all of it
is: as many as it has line feeds, and one more if there is something behind the last. They are also the
lines of what is taken up to each line feed, decoded with it. They are what the execution answers with,
if it answers; and before that, whatever the code and the policy are, each of them went to the sink
once, in order and with the name of the command. -/
theorem capture_equals_decoding_whole (policy : Policy) {launch : Launcher σ} (sink : Sink σ)
    {i : Invocation} {w after : World σ} {process : Process}
    (h : (launch i).run (w.told [i.event]) = (.ok process, after)) :
    let bytes := process.output.flatten
    let lines := Output.ofText (Text.Utf8.decodeLossy bytes)
    Output.lines process.output = lines ∧
      (Output.buffers bytes).map Output.bufferText = lines ∧
      lines.length = bytes.count Output.lineFeed +
        (if bytes = [] ∨ bytes.getLast? = some Output.lineFeed then 0 else 1) ∧
      (∀ line ∈ lines, '\n' ∉ line.toList ∧ line.toList.getLast? ≠ some '\r') ∧
      (processExecutor policy launch sink i).on w =
        (if policy.Accepts process.ending.code then .ok ⟨lines, process.ending.code⟩
          else .error (.commandFailed i.program process.ending.code),
          (sink.take i.tag lines after).told (policy.warnings process.ending.code)) ∧
      ∀ heard, sink.Keeps heard →
        heard ((processExecutor policy launch sink i).on w).2 =
          heard after ++ lines.map (i.tag, ·) := by
  intro bytes lines
  have hlines : Output.lines process.output = lines := Output.lines_eq_ofText process.output
  have hon := processExecutor_on_ok h policy sink
  unfold Policy.answer Process.execution at hon
  rw [hlines] at hon
  refine ⟨hlines, (Output.lines_eq_buffers process.output).symm.trans hlines, ?_,
    fun line hl => Output.of_mem_ofText hl, hon, ?_⟩
  · rw [← hlines]
    exact Output.length_lines process.output
  · intro heard hk
    rw [hon, hk.warnings, hk.take]

/-- A character that is cut in two by the reads is whole again, two that the end of a line cuts off are
not, and all is passed on although the code ends the run. -/
theorem capture_equals_decoding_whole_of_cut_characters :
    let i : Invocation := ⟨"bin/tool", []⟩
    let w : World Unit := ⟨⟨.empty, []⟩, 0, [], ()⟩
    let reads : List (List UInt8) := [[0x66, 0xC3], [0xA9, 0x0D], [0x0D, 0x0A, 0xE2, 0x82], [0x0A],
      [0x0A, 0xF0, 0x9F], [0x0D, 0x78]]
    let launch : Launcher Unit := fun _ w => (.ok ⟨reads, .exited 3⟩, w)
    let out := (processExecutor .abort launch logSink i).on w
    out.1 = .error (.commandFailed "bin/tool" 3) ∧
      out.2.passedOn = [("tool", "fé"), ("tool", "\uFFFD"), ("tool", ""), ("tool", "\uFFFD\rx")] := by
  intro i w reads launch out
  have hrun : (launch i).run (w.told [i.event]) = (.ok ⟨reads, .exited 3⟩, w.told [i.event]) := rfl
  obtain ⟨-, -, -, -, hon, hheard⟩ := capture_equals_decoding_whole .abort logSink hrun
  have hlines : Output.ofText (Text.Utf8.decodeLossy reads.flatten) =
      ["fé", "\uFFFD", "", "\uFFFD\rx"] := by decide +kernel
  have htag : i.tag = "tool" := by decide
  have hpassed := hheard World.passedOn logSink_keeps
  rw [hlines, htag] at hpassed
  exact ⟨congrArg Prod.fst hon, hpassed⟩

end BenchSweep
