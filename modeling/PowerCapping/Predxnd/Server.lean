import PowerCapping.Predxnd.Remote
import PowerCapping.Lib.Framing
import PowerCapping.Lib.Exec
import PowerCapping.Lib.Format
import Mathlib.Data.Rat.Encodable
import Mathlib.Logic.Equiv.List

/-!
# The predxnd protocol

`predxnd/send_print_throttle.py` forwards each payload of the monitor to the
merge server as one JSON line, with its own cgroup's throttle added as
`cpu_limit_remote`, and reads one response line per payload.
`predxnd/merge_pred_throttle.py` serves a connection by reading chunks into a
buffer, cutting the buffer at newlines, and answering every non-blank line
with the power its model predicts for its own features merged with the
payload.

A connection is modelled by the reads the server makes: before each `recv` it
takes its own reading (`get_local_feature_map`), and the read brings the next
chunk of the client's stream.  The main results: the connection's loop is the
handling of the stream's complete lines one after another, each with the
reading taken before the read that completed it (`exec_connection`); the lines
depend on the stream only, not on its cut into reads; and for the stream the
client writes, the `k`-th estimate the server sends answers the client's
`k`-th payload, up to the first payload whose handling raises
(`connection_answers`).

`json.dumps` and `json.loads` are not modelled; the protocol needs of them
only what `Codec` states.  The outer `accept` loop, the prints and the
measured power (used only in prints) are left out.
-/

namespace PowerCapping

namespace Predxnd

open Py

/-- The server's side of a connection: its cgroup's cores
(`get_cgroup_cores` at the top of `server_loop`'s loop), `json.loads` and
the power model's `predict`. -/
structure Server where
  cpus : List ℤ
  loads : List Char → Except Py.Exception Remote
  predict : List ℚ → Except Py.Exception ℚ

/-- What the handling of the lines completed by one read sees: the feature
list and `cpu_index_map` of the server's `get_local_feature_map()` just
before the read, and its cgroup's `cpu.max` and `cpuset.cpus.effective`. -/
structure Reading where
  localMap : List ℚ
  cpuIndexMap : ℤ → Option ℕ
  cpuMax : List Char
  effective : List Char

/-- A connection's state: the estimates sent on it, in order. -/
abbrev ServerM := PyM Py.Exception (List ℚ)

/-- The estimate for one payload: `get_cpu_util_limit`, `merge_remote_data`
and `predict_power_all`. -/
def answer (server : Server) (reading : Reading) (payload : Remote) :
    Except Py.Exception ℚ := do
  let localLim ← getCpuUtilLimit reading.cpuMax reading.effective
  let fmap ← mergeRemoteData reading.cpuIndexMap reading.localMap payload server.cpus localLim
  server.predict fmap

/-- What the loop body computes for one line: nothing for a blank line
(`continue`), otherwise the estimate for the payload `json.loads` reads. -/
def estimate (server : Server) (reading : Reading) (line : List Char) :
    Except Py.Exception (Option ℚ) :=
  if strip line = [] then pure none
  else do
    let payload ← server.loads line
    let est ← answer server reading payload
    pure (some est)

/-- The body of the `while "\n" in buf` loop: compute, then
`conn.sendall(json.dumps({"estimated_power": est}) + "\n")`. -/
def handleLine (server : Server) (reading : Reading) (line : List Char) : ServerM PUnit := do
  match ← fromExcept (estimate server reading line) with
  | none => pure ()
  | some est => modify (· ++ [est])

/-- The `with conn:` block: before each `recv` the server takes its reading,
an empty read (the client closed) ends the block, otherwise the data is
appended to `buf` and the complete lines are handled.  An exception ends the
block; `server_loop` catches it and returns to `accept`. -/
def connection (server : Server) (buf : List Char) :
    List (Except Py.Exception Reading × List Char) → ServerM PUnit
  | [] => pure ()
  | (reading, data) :: more => do
      let reading ← fromExcept reading
      if data = [] then pure ()
      else do
        let buf ← Framing.drain '\n' (handleLine server reading) (buf ++ data)
        connection server buf more

/-- The estimates sent for a list of lines, each with its reading, up to the
first line whose handling raises. -/
def replies (server : Server) : List (Reading × List Char) → List ℚ
  | [] => []
  | (reading, line) :: more =>
      match estimate server reading line with
      | .ok none => replies server more
      | .ok (some est) => est :: replies server more
      | .error _ => []

/-- One line's handling: it raises exactly when its estimate does, and sends
the estimate when there is one. -/
theorem exec_handleLine (server : Server) (reading : Reading) (line : List Char)
    (sent : List ℚ) :
    Py.exec (handleLine server reading line) sent =
      match estimate server reading line with
      | .ok none => (.ok (), sent)
      | .ok (some est) => (.ok (), sent ++ [est])
      | .error e => (.error e, sent) := by
  rcases estimated : estimate server reading line with e | _ | est <;>
    simp [handleLine, Py.exec_bind, Py.exec_fromExcept, Py.exec_pure, Py.exec_modify, estimated]

/-- Handling lines one after another sends their replies. -/
theorem exec_forM_handleLine (server : Server) (lines : List (Reading × List Char))
    (sent : List ℚ) :
    (Py.exec (lines.forM fun line => handleLine server line.1 line.2) sent).2 =
      sent ++ replies server lines := by
  induction lines generalizing sent with
  | nil => simp [Py.exec_pure, replies]
  | cons line more ih =>
      obtain ⟨reading, text⟩ := line
      simp only [List.forM_eq_forM] at ih ⊢
      rw [List.forM_cons, Py.exec_bind, exec_handleLine]
      rcases estimated : estimate server reading text with e | _ | est
      · -- the handling raises: nothing more is sent
        simp [replies, estimated]
      · simp [replies, estimated, ih]
      · simp [replies, estimated, ih]

/-- While every reading succeeds, the connection is the framing loop of
`Framing.receive` with the readings as the reads' contexts. -/
theorem connection_eq (server : Server) (buf : List Char) (reads : List (Reading × List Char)) :
    connection server buf (reads.map fun read => (.ok read.1, read.2)) =
      (do let _ ← Framing.receive '\n' (handleLine server) buf reads; pure ()) := by
  induction reads generalizing buf with
  | nil => simp [connection, Framing.receive]
  | cons read more ih =>
      obtain ⟨reading, data⟩ := read
      by_cases closed : data = []
      · simp [connection, Framing.receive, closed, fromExcept]
      · simp [connection, Framing.receive, closed, fromExcept, ih]

/-- A connection whose readings all succeed sends the replies to the complete
lines of the stream, each with the reading taken before the read that
completed it. -/
theorem exec_connection (server : Server) (reads : List (Reading × List Char)) (sent : List ℚ) :
    (Py.exec (connection server [] (reads.map fun read => (.ok read.1, read.2))) sent).2 =
      sent ++ replies server (Framing.deliveries '\n' [] reads).1 := by
  rw [connection_eq, Framing.receive_eq, ← exec_forM_handleLine]
  simp only [bind_assoc, pure_bind]
  exact Py.exec_bind_pure_snd _ _ _

/-- What the protocol needs of `json.dumps` and `json.loads`: a payload is
dumped as one non-blank line, and loading that line gives the payload back. -/
structure Codec where
  dumps : Remote → List Char
  loads : List Char → Except Py.Exception Remote
  newline_free : ∀ payload, '\n' ∉ dumps payload
  nonblank : ∀ payload, strip (dumps payload) ≠ []
  loads_dumps : ∀ payload, loads (dumps payload) = .ok payload

/-- The dictionary the client sends for one output of the monitor: what
`json.loads` reads from the monitor's line, with `cpu_limit_remote` added. -/
def Payload.withLimit : Payload → ℚ → Remote
  | .data numCores _ cpupowerFields perfCounts temperatures, limit =>
      ⟨some numCores, some cpupowerFields, some perfCounts, some temperatures, some limit⟩
  | .error _, limit => ⟨none, none, none, none, some limit⟩

/-- The payloads `send_print_throttle` forwards for the monitor's outputs,
each with the throttle `get_cpu_util_limit` reads from the client's
`cpu.max` and `cpuset.cpus.effective` at that moment, up to the first read
that raises (the exception ends the client). -/
def clientPayloads : List (Payload × List Char × List Char) → List Remote
  | [] => []
  | (payload, cpuMax, effective) :: more =>
      match getCpuUtilLimit cpuMax effective with
      | .ok limit => payload.withLimit limit :: clientPayloads more
      | .error _ => []

/-- The stream the client writes: `json.dumps(payload) + "\n"` for each
payload. -/
def clientStream (codec : Codec) (payloads : List Remote) : List Char :=
  Framing.frames '\n' (payloads.map codec.dumps)

/-- The estimates for payloads, each answered with its reading, up to the
first whose answer raises. -/
def answers (server : Server) : List (Reading × Remote) → List ℚ
  | [] => []
  | (reading, payload) :: more =>
      match answer server reading payload with
      | .ok est => est :: answers server more
      | .error _ => []

/-- One estimate per pair once every answer succeeds. -/
theorem answers_length {server : Server} {pairs : List (Reading × Remote)}
    (succeed : ∀ pair ∈ pairs, ∃ est, answer server pair.1 pair.2 = .ok est) :
    (answers server pairs).length = pairs.length := by
  induction pairs with
  | nil => rfl
  | cons pair more ih =>
      obtain ⟨reading, payload⟩ := pair
      obtain ⟨est, answered⟩ := succeed _ List.mem_cons_self
      simp only [answers, answered, List.length_cons]
      rw [ih fun other member => succeed other (List.mem_cons_of_mem _ member)]

/-- However the client's stream is cut into reads, the server's loop cuts
out the dumped payloads, in order, and ends with the unterminated rest of the
stream in `buf`. -/
theorem deliveries_clientStream (codec : Codec) (payloads : List Remote) {pending : List Char}
    (unterminated : '\n' ∉ pending) {β : Type} (reads : List (β × List Char))
    (nonempty : ∀ read ∈ reads, read.2 ≠ [])
    (stream : (reads.map Prod.snd).flatten = clientStream codec payloads ++ pending) :
    (Framing.deliveries '\n' [] reads).1.map Prod.snd = payloads.map codec.dumps ∧
      (Framing.deliveries '\n' [] reads).2 = pending := by
  have clean : ∀ line ∈ payloads.map codec.dumps, '\n' ∉ line := by
    simp only [List.mem_map]
    rintro _ ⟨payload, -, rfl⟩
    exact codec.newline_free payload
  obtain ⟨delivered, left⟩ := Framing.deliveries_lines '\n' List.not_mem_nil reads nonempty
  obtain ⟨framed, framedRest⟩ := Framing.lines_frames_append '\n' clean pending
  rw [List.nil_append, stream, clientStream] at delivered left
  refine ⟨?_, ?_⟩
  · rw [delivered, framed, Framing.lines_of_not_mem '\n' unterminated, List.append_nil]
  · rw [left, framedRest, Framing.rest_of_not_mem '\n' unterminated]

section Codec

variable (codec : Codec) {server : Server} (decodes : server.loads = codec.loads)
include decodes

/-- The line of a dumped payload is never skipped, and is answered for that
payload. -/
theorem estimate_dumps (reading : Reading) (payload : Remote) :
    estimate server reading (codec.dumps payload) = (answer server reading payload).map some := by
  simp only [estimate, codec.nonblank payload, if_false, decodes, codec.loads_dumps]
  -- the loaded payload is the dumped one
  show (answer server reading payload >>= fun est => pure (some est)) = _
  rcases answer server reading payload with e | est <;> rfl

/-- Replies to the lines of dumped payloads are the answers to those
payloads. -/
theorem replies_dumps {delivered : List (Reading × List Char)} {payloads : List Remote}
    (lines : delivered.map Prod.snd = payloads.map codec.dumps) :
    replies server delivered = answers server ((delivered.map Prod.fst).zip payloads) := by
  induction delivered generalizing payloads with
  | nil => simp [replies, answers]
  | cons line more ih =>
      obtain ⟨reading, text⟩ := line
      cases payloads with
      | nil => simp at lines
      | cons payload rest =>
          simp only [List.map_cons, List.cons.injEq] at lines
          obtain ⟨rfl, later⟩ := lines
          simp only [replies, estimate_dumps codec decodes, List.map_cons, List.zip_cons_cons,
            answers]
          rcases answer server reading payload with e | est
          · rfl
          · exact congrArg (est :: ·) (ih later)

/-- However the client's stream is cut into reads, the server answers the
client's payloads in order, one estimate each, each with the reading taken
before the read that completed its line, until an answer raises: the `k`-th
estimate sent answers the `k`-th payload.  The stream read so far may end
inside a payload's line. -/
theorem connection_answers (payloads : List Remote) {pending : List Char}
    (unterminated : '\n' ∉ pending) (reads : List (Reading × List Char))
    (nonempty : ∀ read ∈ reads, read.2 ≠ [])
    (stream : (reads.map Prod.snd).flatten = clientStream codec payloads ++ pending)
    (sent : List ℚ) :
    (Framing.deliveries '\n' [] reads).1.length = payloads.length ∧
      (Py.exec (connection server [] (reads.map fun read => (.ok read.1, read.2))) sent).2 =
        sent ++ answers server
          (((Framing.deliveries '\n' [] reads).1.map Prod.fst).zip payloads) := by
  -- the lines the server cuts are the dumped payloads
  have delivered := (deliveries_clientStream codec payloads unterminated reads nonempty stream).1
  refine ⟨?_, ?_⟩
  · simpa using congrArg List.length delivered
  · rw [exec_connection, replies_dumps codec decodes delivered]

/-- The whole exchange on one connection: however the client's stream is cut
into reads, the server hands each payload's line to `json.loads` once and in
the order sent, keeps the unterminated rest in `buf`, and sends one estimate
for each payload, the `k`-th answering the `k`-th payload, for as long as
merging and predicting succeed.  Every reading the server takes before a
`recv` is taken to succeed: a `get_local_feature_map` that raises ends the
connection before the read, and `reads` holds only readings. -/
theorem server_answers_each_payload (payloads : List Remote) {pending : List Char}
    (unterminated : '\n' ∉ pending) (reads : List (Reading × List Char))
    (nonempty : ∀ read ∈ reads, read.2 ≠ [])
    (stream : (reads.map Prod.snd).flatten = clientStream codec payloads ++ pending)
    (sent : List ℚ) :
    let delivered := Framing.deliveries '\n' [] reads
    let pairs := (delivered.1.map Prod.fst).zip payloads
    delivered.1.map Prod.snd = payloads.map codec.dumps ∧ delivered.2 = pending ∧
      (Py.exec (connection server [] (reads.map fun read => (.ok read.1, read.2))) sent).2 =
        sent ++ answers server pairs ∧
      ((∀ pair ∈ pairs, ∃ est, answer server pair.1 pair.2 = .ok est) →
        (answers server pairs).length = payloads.length) := by
  intro delivered pairs
  obtain ⟨lines, left⟩ := deliveries_clientStream codec payloads unterminated reads nonempty stream
  obtain ⟨counted, replied⟩ :=
    connection_answers codec decodes payloads unterminated reads nonempty stream sent
  refine ⟨lines, left, replied, fun succeed => ?_⟩
  -- every payload has a line, so the pairs are as many as the payloads
  rw [answers_length succeed, List.length_zip, List.length_map, counted, min_self]

end Codec

/-- The payload fields as a tuple. -/
def Remote.equivTuple :
    Remote ≃ Option ℤ × Option (List ℚ) × Option (List ℚ) × Option (List ℚ) × Option ℚ where
  toFun payload := (payload.numCores, payload.cpupowerFields, payload.perfCounts,
    payload.temperatures, payload.cpuLimitRemote)
  invFun fields := ⟨fields.1, fields.2.1, fields.2.2.1, fields.2.2.2.1, fields.2.2.2.2⟩
  left_inv _ := rfl
  right_inv _ := rfl

instance : Encodable Remote :=
  Encodable.ofEquiv _ Remote.equivTuple

/-- A codec with the properties the protocol needs: a payload is written as
the decimal digits of its code. -/
def decimalCodec : Codec where
  dumps payload := Nat.toDigits 10 (Encodable.encode payload)
  loads text := do
    let code ← intValue text
    match Encodable.decode code.toNat with
    | some payload => .ok payload
    | none => .error .valueError
  newline_free _ member := by
    have digit := isDigit_of_mem_toDigits member
    exact absurd digit (by decide)
  nonblank _ := by
    rw [strip_of_no_space fun _ member => isSpace_of_isDigit (isDigit_of_mem_toDigits member)]
    exact Nat.toDigits_ne_nil
  loads_dumps payload := by simp [intValue_toDigits, Encodable.encodek]

/-- Two payloads with perf counts, written as their decimal codes and cut
across three reads, followed by the start of a next line.  The server, with no
cores of its own to merge, predicts the sum of its temperature block and the
merged perf block: the first payload, completed by the second read, is
answered with that read's reading, the second with the third's. -/
theorem server_answers_each_payload_twoPayloads :
    let server : Server := ⟨[], decimalCodec.loads, fun fmap => .ok fmap.sum⟩
    let payloads : List Remote := [⟨some 1, some [], some [2], some [], some 50⟩,
      ⟨some 1, some [], some [3], some [], some 100⟩]
    let stream := clientStream decimalCodec payloads ++ "1".toList
    let reading := fun localMap : List ℚ =>
      (⟨localMap, fun _ => none, "max".toList, "0".toList⟩ : Reading)
    let reads := [(reading [10, 1], stream.take 40), (reading [10, 1], (stream.drop 40).take 60),
      (reading [20, 1], stream.drop 100)]
    '\n' ∉ "1".toList ∧ (∀ read ∈ reads, read.2 ≠ []) ∧
      (reads.map Prod.snd).flatten = clientStream decimalCodec payloads ++ "1".toList ∧
      (let delivered := Framing.deliveries '\n' [] reads
      let pairs := (delivered.1.map Prod.fst).zip payloads
      delivered.1.map Prod.snd = payloads.map decimalCodec.dumps ∧ delivered.2 = "1".toList ∧
        (Py.exec (connection server [] (reads.map fun read => (.ok read.1, read.2))) []).2 =
          [] ++ answers server pairs ∧
        ((∀ pair ∈ pairs, ∃ est, answer server pair.1 pair.2 = .ok est) →
          (answers server pairs).length = payloads.length)) ∧
      answers server (((Framing.deliveries '\n' [] reads).1.map Prod.fst).zip payloads) =
        [15, 24] := by
  intro server payloads stream reading reads
  have unterminated : '\n' ∉ "1".toList := by decide
  have nonempty : ∀ read ∈ reads, read.2 ≠ [] := by decide +kernel
  have cut : (reads.map Prod.snd).flatten = clientStream decimalCodec payloads ++ "1".toList := by
    decide +kernel
  have answered : answers server (((Framing.deliveries '\n' [] reads).1.map Prod.fst).zip
      payloads) = [15, 24] := by
    decide +kernel
  exact ⟨unterminated, nonempty, cut,
    server_answers_each_payload decimalCodec rfl payloads unterminated reads nonempty cut [],
    answered⟩

end Predxnd

end PowerCapping
