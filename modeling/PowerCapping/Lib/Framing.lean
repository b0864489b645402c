import Mathlib.Order.Basic

/-!
# Line framing of a stream read in chunks

A receiver appends each chunk it reads to a buffer and then, while the buffer
holds a separator, cuts it at the first separator and handles the line before
it.  Whatever the cut of the stream into chunks, the lines it handles are the
complete lines of the stream, each once and in order, and the buffer keeps
the unterminated rest.

The lines and the rest of a stream are read off `List.splitOn`; the framing
is lossless (`frames_lines_rest`) and decodes a framed list of lines exactly
(`lines_frames`).  The loop is shown equal to handing the stream's lines to
the handler one after another (`drain_eq`, `receive_eq`), and the lines
handed over depend on the stream only (`deliveries_lines`).
-/

namespace PowerCapping

namespace Framing

variable {α : Type} (sep : α)

/-- Lines, each followed by the separator, one after another. -/
def frames (pieces : List (List α)) : List α :=
  (pieces.map (· ++ [sep])).flatten

@[simp]
theorem frames_nil : frames sep [] = [] :=
  rfl

@[simp]
theorem frames_cons (line : List α) (pieces : List (List α)) :
    frames sep (line :: pieces) = line ++ sep :: frames sep pieces := by
  simp [frames]

variable [DecidableEq α]

/-- The complete lines of a stream: the pieces before each separator. -/
def lines (stream : List α) : List (List α) :=
  (stream.splitOn sep).dropLast

/-- The unterminated piece after the last separator. -/
def rest (stream : List α) : List α :=
  (stream.splitOn sep).getLast (List.splitOn_ne_nil sep stream)

theorem splitOn_of_not_mem {stream : List α} (clean : sep ∉ stream) :
    stream.splitOn sep = [stream] :=
  List.splitOnP_eq_singleton fun x member => by
    have different : x ≠ sep := fun same => clean (same ▸ member)
    simpa using different

theorem splitOn_frame {line : List α} (clean : sep ∉ line) (more : List α) :
    (line ++ sep :: more).splitOn sep = line :: more.splitOn sep :=
  List.splitOnP_append_cons_of_forall_mem
    (fun x member => by
      have different : x ≠ sep := fun same => clean (same ▸ member)
      simpa using different)
    sep (by simp) more

@[simp]
theorem lines_of_not_mem {stream : List α} (clean : sep ∉ stream) : lines sep stream = [] := by
  simp [lines, splitOn_of_not_mem sep clean]

@[simp]
theorem rest_of_not_mem {stream : List α} (clean : sep ∉ stream) : rest sep stream = stream := by
  simp [rest, splitOn_of_not_mem sep clean]

@[simp]
theorem lines_frame {line : List α} (clean : sep ∉ line) (more : List α) :
    lines sep (line ++ sep :: more) = line :: lines sep more := by
  simp only [lines, splitOn_frame sep clean]
  exact List.dropLast_cons_of_ne_nil (List.splitOn_ne_nil sep more)

@[simp]
theorem rest_frame {line : List α} (clean : sep ∉ line) (more : List α) :
    rest sep (line ++ sep :: more) = rest sep more := by
  simp only [rest, splitOn_frame sep clean]
  exact List.getLast_cons (List.splitOn_ne_nil sep more)

/-- `line, rest = buf.split(sep, 1)`: the text before the first separator and
the text after it. -/
def splitFirst (buf : List α) : List α × List α :=
  (buf.takeWhile (· != sep), (buf.dropWhile (· != sep)).drop 1)

@[simp]
theorem splitFirst_sep_cons (tail : List α) : splitFirst sep (sep :: tail) = ([], tail) := by
  simp [splitFirst]

theorem splitFirst_cons {head : α} (different : head ≠ sep) (tail : List α) :
    splitFirst sep (head :: tail) =
      (head :: (splitFirst sep tail).1, (splitFirst sep tail).2) := by
  simp [splitFirst, different]

/-- A buffer that holds a separator is the text before its first separator,
that separator, and the text after it. -/
theorem splitFirst_spec {buf : List α} (found : sep ∈ buf) :
    buf = (splitFirst sep buf).1 ++ sep :: (splitFirst sep buf).2 ∧
      sep ∉ (splitFirst sep buf).1 := by
  induction buf with
  | nil => cases found
  | cons head tail ih =>
      by_cases atHead : head = sep
      · subst atHead
        simp
      · -- the first separator is in the tail
        have inTail : sep ∈ tail := by
          rcases List.mem_cons.mp found with same | member
          · exact absurd same.symm atHead
          · exact member
        obtain ⟨split, clean⟩ := ih inTail
        rw [splitFirst_cons sep atHead]
        refine ⟨by rw [List.cons_append, ← split], ?_⟩
        simpa [Ne.symm atHead] using clean

theorem splitFirst_frame {line : List α} (clean : sep ∉ line) (more : List α) :
    splitFirst sep (line ++ sep :: more) = (line, more) := by
  induction line with
  | nil => simp
  | cons head tail ih =>
      have different : head ≠ sep := fun same => clean (same ▸ List.mem_cons_self)
      have tailClean : sep ∉ tail := fun member => clean (List.mem_cons_of_mem _ member)
      rw [List.cons_append, splitFirst_cons sep different, ih tailClean]

theorem splitFirst_length {buf : List α} (found : sep ∈ buf) :
    (splitFirst sep buf).2.length < buf.length := by
  have split := (splitFirst_spec sep found).1
  have lengths := congrArg List.length split
  simp only [List.length_append, List.length_cons] at lengths
  omega

/-- Induction over the lines of a stream: a stream is free of separators, or a
line, a separator and a shorter stream. -/
theorem frame_induction {motive : List α → Prop} (clean : ∀ stream, sep ∉ stream → motive stream)
    (frame : ∀ line more, sep ∉ line → motive more → motive (line ++ sep :: more))
    (stream : List α) : motive stream := by
  by_cases found : sep ∈ stream
  · obtain ⟨split, lineClean⟩ := splitFirst_spec sep found
    have later := frame_induction clean frame (splitFirst sep stream).2
    rw [split]
    exact frame _ _ lineClean later
  · exact clean stream found
termination_by stream.length
decreasing_by exact splitFirst_length sep found

/-- The framing is lossless: the lines, each with its separator, and the
rest give the stream back. -/
theorem frames_lines_rest (stream : List α) :
    frames sep (lines sep stream) ++ rest sep stream = stream := by
  induction stream using frame_induction sep with
  | clean stream found => simp [found]
  | frame line more lineClean ih => simp [lineClean, ih]

theorem not_mem_of_mem_lines {stream line : List α} (member : line ∈ lines sep stream) :
    sep ∉ line := by
  induction stream using frame_induction sep with
  | clean stream found => simp [found] at member
  | frame first more firstClean ih =>
      rw [lines_frame sep firstClean, List.mem_cons] at member
      rcases member with rfl | later
      · exact firstClean
      · exact ih later

theorem not_mem_rest (stream : List α) : sep ∉ rest sep stream := by
  induction stream using frame_induction sep with
  | clean stream found => simp [found]
  | frame line more lineClean ih => simpa [lineClean] using ih

/-- Framed lines followed by a stream: the lines come first, and the rest is
the stream's. -/
theorem lines_frames_append {pieces : List (List α)} (clean : ∀ piece ∈ pieces, sep ∉ piece)
    (more : List α) :
    lines sep (frames sep pieces ++ more) = pieces ++ lines sep more ∧
      rest sep (frames sep pieces ++ more) = rest sep more := by
  induction pieces with
  | nil => simp
  | cons piece pieces ih =>
      have pieceClean := clean piece List.mem_cons_self
      obtain ⟨sameLines, sameRest⟩ := ih fun other member => clean other (List.mem_cons_of_mem _ member)
      simp only [frames_cons, List.append_assoc, List.cons_append]
      rw [lines_frame sep pieceClean, rest_frame sep pieceClean, sameLines, sameRest]
      exact ⟨rfl, rfl⟩

/-- Framing decodes exactly: lines free of separators, framed, are read back
as those lines with nothing left over. -/
theorem lines_frames {pieces : List (List α)} (clean : ∀ piece ∈ pieces, sep ∉ piece) :
    lines sep (frames sep pieces) = pieces ∧ rest sep (frames sep pieces) = [] := by
  have framed := lines_frames_append sep clean []
  simp only [List.append_nil] at framed
  simpa using framed

/-- Appending to a stream adds the lines that the old rest and the new text
complete. -/
theorem lines_append (first second : List α) :
    lines sep (first ++ second) = lines sep first ++ lines sep (rest sep first ++ second) ∧
      rest sep (first ++ second) = rest sep (rest sep first ++ second) := by
  have split := frames_lines_rest sep first
  have clean : ∀ piece ∈ lines sep first, sep ∉ piece :=
    fun _ member => not_mem_of_mem_lines sep member
  have framed := lines_frames_append sep clean (rest sep first ++ second)
  rw [← List.append_assoc, split] at framed
  exact framed

section Loop

variable {m : Type → Type} [Monad m]

/-- `while sep in buf: line, buf = buf.split(sep, 1); body(line)`: the loop
hands each line to `body` and returns the buffer it leaves. -/
def drain (body : List α → m PUnit) (buf : List α) : m (List α) :=
  if _ : sep ∈ buf then do
    body (splitFirst sep buf).1
    drain body (splitFirst sep buf).2
  else pure buf
termination_by buf.length
decreasing_by exact splitFirst_length sep ‹sep ∈ buf›

theorem drain_of_not_mem (body : List α → m PUnit) {buf : List α} (clean : sep ∉ buf) :
    drain sep body buf = pure buf := by
  rw [drain, dif_neg clean]

theorem drain_frame (body : List α → m PUnit) {line : List α} (clean : sep ∉ line)
    (more : List α) :
    drain sep body (line ++ sep :: more) = (do body line; drain sep body more) := by
  rw [drain, dif_pos (List.mem_append_right _ List.mem_cons_self), splitFirst_frame sep clean]

variable [LawfulMonad m]

/-- The loop hands the buffer's complete lines to `body` in order and leaves
the rest. -/
theorem drain_eq (body : List α → m PUnit) (buf : List α) :
    drain sep body buf = (do (lines sep buf).forM body; pure (rest sep buf)) := by
  induction buf using frame_induction sep with
  | clean buf found => simp [drain_of_not_mem sep body found, found]
  | frame line more lineClean ih => simp [drain_frame sep body lineClean, lineClean, ih]

/-- A connection's reading loop: read a chunk, stop at an empty one (the peer
closed the connection), append it to the buffer and drain the buffer.  Each
read comes with a context (what the receiver computed before it), and `body`
gets the context of the read that completed its line. -/
def receive {β : Type} (body : β → List α → m PUnit) (buf : List α) :
    List (β × List α) → m (List α)
  | [] => pure buf
  | (context, chunk) :: more =>
      if chunk = [] then pure buf
      else do
        let buf ← drain sep (body context) (buf ++ chunk)
        receive body buf more

/-- The lines `receive` hands over, each with the context of its read, and
the buffer it ends with. -/
def deliveries {β : Type} (buf : List α) : List (β × List α) → List (β × List α) × List α
  | [] => ([], buf)
  | (context, chunk) :: more =>
      if chunk = [] then ([], buf)
      else
        let later := deliveries (rest sep (buf ++ chunk)) more
        ((lines sep (buf ++ chunk)).map (context, ·) ++ later.1, later.2)

/-- The reading loop is the handling of its deliveries, one after another. -/
theorem receive_eq {β : Type} (body : β → List α → m PUnit) (buf : List α)
    (reads : List (β × List α)) :
    receive sep body buf reads =
      (do (deliveries sep buf reads).1.forM (fun line => body line.1 line.2)
          pure (deliveries sep buf reads).2) := by
  induction reads generalizing buf with
  | nil => simp [receive, deliveries]
  | cons read more ih =>
      obtain ⟨context, chunk⟩ := read
      by_cases closed : chunk = []
      · simp [receive, deliveries, closed]
      · simp [receive, deliveries, closed, drain_eq, ih, List.forM_append]

end Loop

/-- However the stream was cut into reads, the lines handed over are the
complete lines of the stream, each once and in order, and the buffer ends
with the unterminated rest. -/
theorem deliveries_lines {β : Type} {buf : List α} (clean : sep ∉ buf)
    (reads : List (β × List α)) (nonempty : ∀ read ∈ reads, read.2 ≠ []) :
    (deliveries sep buf reads).1.map Prod.snd = lines sep (buf ++ (reads.map Prod.snd).flatten) ∧
      (deliveries sep buf reads).2 = rest sep (buf ++ (reads.map Prod.snd).flatten) := by
  induction reads generalizing buf with
  | nil => simp [deliveries, clean]
  | cons read more ih =>
      obtain ⟨context, chunk⟩ := read
      have open_ : chunk ≠ [] := nonempty _ List.mem_cons_self
      obtain ⟨laterLines, laterRest⟩ :=
        ih (not_mem_rest sep (buf ++ chunk))
          fun read member => nonempty read (List.mem_cons_of_mem _ member)
      obtain ⟨splitLines, splitRest⟩ := lines_append sep (buf ++ chunk) (more.map Prod.snd).flatten
      simp only [deliveries, open_, if_false, List.map_append, List.map_map, List.map_cons,
        List.flatten_cons, ← List.append_assoc]
      refine ⟨?_, ?_⟩
      · rw [splitLines, laterLines]
        simp [Function.comp_def]
      · rw [splitRest, laterRest]

/-- A line cut across two reads is handed over once, when its end arrives. -/
example : (deliveries '\n' [] [((), "a\nb".toList), ((), "c\n\nd".toList)]).1.map Prod.snd =
    ["a".toList, "bc".toList, []] := by
  decide

end Framing

end PowerCapping
