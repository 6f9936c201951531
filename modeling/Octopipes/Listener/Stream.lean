import Mathlib.Algebra.Order.BigOperators.Group.List
import Octopipes.Listener.Loops

namespace Octopipes

open CMemory PointerArray Transition Wire

/-- A sent message carries a frame that fits in memory. -/
structure SentMessage where
  message : OctopipesMessage
  frame : Frame
  carries : message.Carries frame
  fits : frame.size < 2 ^ 64

namespace SentMessage

def bytes (sent : SentMessage) : List UInt8 := sent.frame.bytes sent.frame.wireChecksum

/-- The encoder writes these bytes for the message. -/
theorem octopipesEncode_bytes (sent : SentMessage) :
    octopipesEncode true sent.message = .ok (.ok (Block.ofBytes sent.bytes,
      { sent.message with checksum := sent.frame.wireChecksum })) :=
  octopipesEncode_carries sent.message sent.frame sent.carries sent.fits

/-- The worker should store this entry for the message. -/
def entry (sent : SentMessage) : OctopipesServerMessage :=
  ⟨.live (sent.frame.message sent.frame.wireChecksum), .success⟩

end SentMessage

/-- One receive takes whole frames from the pipe or finds no data. -/
structure StreamCut where
  chunk : List SentMessage
  mallocs : DecodeMallocs
  entryGranted : Bool
  arrayGranted : Bool

namespace StreamCut

def bytes (cut : StreamCut) : List UInt8 := (cut.chunk.map SentMessage.bytes).flatten

def result (cut : StreamCut) : PipeResult :=
  if cut.chunk = [] then .failed .noDataAvailable (by decide) else .bytes cut.bytes

def input (cut : StreamCut) : ListenerInput :=
  ⟨cut.result, cut.mallocs, cut.entryGranted, cut.arrayGranted⟩

/-- The receive takes at most one frame and the memory calls for it succeed. -/
def Whole (cut : StreamCut) : Prop :=
  cut.chunk = [] ∨ ∃ sent, cut.chunk = [sent] ∧ MallocsSuffice sent.bytes cut.mallocs ∧
    cut.entryGranted = true ∧ cut.arrayGranted = true

end StreamCut

/-- Joined frames end with the end-of-text byte. -/
theorem frames_end (first : SentMessage) (others : List SentMessage) :
    ∃ before, ((first :: others).map SentMessage.bytes).flatten = before ++ [etx] := by
  induction others generalizing first with
  | nil =>
      refine ⟨first.frame.head first.frame.wireChecksum ++ first.frame.data, ?_⟩
      simp [SentMessage.bytes, Frame.bytes]
  | cons second rest ih =>
      obtain ⟨before, ends⟩ := ih second
      exact ⟨first.bytes ++ before, by rw [List.map_cons, List.flatten_cons, ends, List.append_assoc]⟩

/-- The reads of one receive give its cut of the stream. -/
theorem pipeReceive_cut (cut : StreamCut) (timeout : Nat) (positive : 0 < timeout)
    (chunks : List ReadChunk) (present : cut.chunk ≠ [])
    (reads : (chunks.map Subtype.val).flatten = cut.bytes) :
    pipeReceive true timeout (chunks.map (.read · true) ++ [.timedOut]) =
      .ok (some cut.result.data) := by
  have nonempty : (chunks.map Subtype.val).flatten ≠ [] := by
    obtain ⟨first, others, same⟩ := List.exists_cons_of_ne_nil present
    obtain ⟨before, ends⟩ := frames_end first others
    rw [reads, StreamCut.bytes, same, ends]
    simp
  rw [StreamCut.result, if_neg present, ← reads]
  exact pipeReceive_reads timeout positive chunks nonempty

/-- The decoder accepts joined frames as their first frame. -/
theorem accepted_frames (first : SentMessage) (others : List SentMessage) :
    Accepted ((first :: others).map SentMessage.bytes).flatten := by
  obtain ⟨before, ends⟩ := frames_end first others
  have last : byteAt ((first :: others).map SentMessage.bytes).flatten
      (((first :: others).map SentMessage.bytes).flatten.length - 1) = etx :=
    byteAt_split _ [] ends (by rw [ends]; simp)
  rw [List.map_cons, List.flatten_cons] at last ⊢
  exact ⟨headerAccepted_append _ _ _ last, payloadInside_append _ _ _, checksumAccepted_append _ _⟩

/-- The listener reports the first frame of a cut or an error. -/
theorem listenerEntry_frames (mallocs : DecodeMallocs) (first : SentMessage)
    (others : List SentMessage) :
    ∃ entry, listenerEntry mallocs
        (PipeResult.bytes ((first :: others).map SentMessage.bytes).flatten).data = .ok (some entry) ∧
      (entry = first.entry ↔ MallocsSuffice first.bytes mallocs) := by
  have accepted := accepted_frames first others
  have memory := mallocsSuffice_append first.frame first.frame.wireChecksum
    (others.map SentMessage.bytes).flatten mallocs
  by_cases enough : MallocsSuffice first.bytes mallocs
  · refine ⟨_, listenerEntry_accepted mallocs _ accepted (memory.mpr enough), ?_⟩
    refine iff_of_true ?_ enough
    rw [List.map_cons, List.flatten_cons, SentMessage.bytes, frame_append, checksumByte_append]
    rfl
  · rcases octopipesDecode_cases mallocs ((first :: others).map SentMessage.bytes).flatten with
      ⟨_, suffice, _⟩ | ⟨_, outside, _, _⟩ | ⟨_, _, error, failed, decoded⟩
    · exact absurd (memory.mp suffice) enough
    · exact absurd accepted.2.1 outside
    · refine ⟨_, listenerEntry_failed mallocs _ error decoded rfl (by simp [PipeResult.data]), ?_⟩
      refine iff_of_false (fun same => failed ?_) enough
      exact (toServerError_eq_success error).mp (congrArg OctopipesServerMessage.error same)

/-- These entries enter the inbox after one iteration. -/
def ListenerInput.stored (input : ListenerInput) : List OctopipesServerMessage :=
  match listenerEntry input.mallocs input.received.data with
  | .ok (some entry) => if input.entryGranted && input.arrayGranted then [entry] else []
  | _ => []

/-- One iteration stores its entries or breaks the inbox. -/
theorem listenerStep_stores (inbox next : OctopipesServerInbox) (entries : List OctopipesServerMessage)
    (stores : inbox.Stores entries) (input : ListenerInput)
    (stepped : listenerStep inbox input = .ok next) :
    next.Stores (entries ++ input.stored) ∨ next.Broken := by
  obtain ⟨received, mallocs, entryGranted, arrayGranted⟩ := input
  obtain ⟨reported, outcome, stepped⟩ := Exec.bind_eq_ok.mp stepped
  simp only [ListenerInput.stored, outcome]
  cases reported with
  | none => cases stepped; simpa using Or.inl stores
  | some entry =>
      obtain ⟨⟨after, code⟩, pushed, stepped⟩ := Exec.bind_eq_ok.mp stepped
      cases stepped
      cases entryGranted with
      | false => cases pushed; simpa using Or.inl stores
      | true =>
          cases arrayGranted with
          | true =>
              obtain ⟨_, granted, grown⟩ :=
                messageInboxPush_stores inbox entries stores entry.message entry.error
              cases granted.symm.trans pushed
              exact Or.inl grown
          | false =>
              cases (messageInboxPush_dropped inbox entries stores entry.message
                entry.error).symm.trans pushed
              cases entries with
              | nil => exact Or.inl stores_nil
              | cons first rest => exact Or.inr ⟨0, by simp, fun _ => by simp [slot]⟩

theorem listenerStep_broken (inbox next : OctopipesServerInbox) (broken : inbox.Broken)
    (input : ListenerInput) (stepped : listenerStep inbox input = .ok next) : next.Broken := by
  obtain ⟨reported, _, stepped⟩ := Exec.bind_eq_ok.mp stepped
  cases reported with
  | none => cases stepped; exact broken
  | some entry =>
      obtain ⟨⟨after, code⟩, pushed, stepped⟩ := Exec.bind_eq_ok.mp stepped
      cases stepped
      exact messageInboxPush_broken inbox _ broken _ _ _ _ _ pushed

theorem listenerRun_broken (inbox final : OctopipesServerInbox) (broken : inbox.Broken)
    (inputs : List ListenerInput) (returned : run listenerStep inbox inputs = .ok final) :
    final.Broken := by
  induction inputs generalizing inbox with
  | nil => cases returned; exact broken
  | cons input rest ih =>
      obtain ⟨next, stepped, continued⟩ := (run_cons_eq_ok _).mp returned
      exact ih next (listenerStep_broken inbox next broken input stepped) continued

/-- A run stores the entries of its iterations in order or breaks the inbox. -/
theorem listenerRun_stores (inbox final : OctopipesServerInbox)
    (entries : List OctopipesServerMessage) (stores : inbox.Stores entries)
    (inputs : List ListenerInput) (returned : run listenerStep inbox inputs = .ok final) :
    final.Stores (entries ++ inputs.flatMap ListenerInput.stored) ∨ final.Broken := by
  induction inputs generalizing inbox entries with
  | nil => cases returned; simpa using Or.inl stores
  | cons input rest ih =>
      obtain ⟨next, stepped, continued⟩ := (run_cons_eq_ok _).mp returned
      rw [List.flatMap_cons, ← List.append_assoc]
      rcases listenerStep_stores inbox next entries stores input stepped with stored | broken
      · exact ih next _ stored continued
      · exact Or.inr (listenerRun_broken next final broken rest continued)

/-- One iteration stores the messages of its cut exactly when the cut is whole. -/
theorem stored_eq_iff (cut : StreamCut) :
    cut.input.stored = cut.chunk.map SentMessage.entry ↔ cut.Whole := by
  obtain ⟨chunk, mallocs, entryGranted, arrayGranted⟩ := cut
  cases chunk with
  | nil =>
      refine iff_of_true ?_ (Or.inl rfl)
      simp [ListenerInput.stored, StreamCut.input, StreamCut.result, PipeResult.data, listenerEntry]
  | cons first others =>
      obtain ⟨entry, outcome, same⟩ := listenerEntry_frames mallocs first others
      have stored : StreamCut.input ⟨first :: others, mallocs, entryGranted, arrayGranted⟩ =
          ⟨.bytes ((first :: others).map SentMessage.bytes).flatten, mallocs, entryGranted,
            arrayGranted⟩ := rfl
      rw [stored, ListenerInput.stored, outcome, StreamCut.Whole, ← Bool.and_eq_true_iff]
      cases entryGranted && arrayGranted with
      | false => simp
      | true =>
          cases others with
          | nil => simp [same]
          | cons second rest => simp

/-- An iteration stores at most one entry and none without data. -/
theorem stored_length_le (cut : StreamCut) :
    cut.input.stored.length ≤ (cut.chunk.map SentMessage.entry).length := by
  obtain ⟨chunk, mallocs, entryGranted, arrayGranted⟩ := cut
  cases chunk with
  | nil => exact Nat.le_of_eq (congrArg List.length ((stored_eq_iff _).mpr (Or.inl rfl)))
  | cons first others =>
      unfold ListenerInput.stored
      split
      · split <;> simp
      · simp

/-- Parts that are not longer than their counterparts join equally only when each part is equal. -/
theorem flatMap_eq_iff {A B : Type} (first second : A → List B) (inputs : List A)
    (short : ∀ input ∈ inputs, (first input).length ≤ (second input).length) :
    inputs.flatMap first = inputs.flatMap second ↔ ∀ input ∈ inputs, first input = second input := by
  induction inputs with
  | nil => simp
  | cons input rest ih =>
      have tailShort := fun other member => short other (List.mem_cons_of_mem input member)
      have total : ∀ parts : List A, (∀ part ∈ parts, (first part).length ≤ (second part).length) →
          (parts.flatMap first).length ≤ (parts.flatMap second).length := by
        intro parts bounded
        rw [List.length_flatMap, List.length_flatMap]
        exact List.sum_le_sum bounded
      rw [List.flatMap_cons, List.flatMap_cons, List.forall_mem_cons, ← ih tailShort]
      constructor
      · intro joined
        have lengths := congrArg List.length joined
        rw [List.length_append, List.length_append] at lengths
        have head := short input List.mem_cons_self
        have tail := total rest tailShort
        exact List.append_inj joined (by omega)
      · rintro ⟨head, tail⟩
        rw [head, tail]

/-- Whole cuts run without a fault and store their messages. -/
theorem listenerRun_whole (inbox : OctopipesServerInbox) (entries : List OctopipesServerMessage)
    (stores : inbox.Stores entries) (cuts : List StreamCut) (whole : ∀ cut ∈ cuts, cut.Whole) :
    ∃ final, run listenerStep inbox (cuts.map StreamCut.input) = .ok final ∧
      final.Stores (entries ++ (cuts.flatMap StreamCut.chunk).map SentMessage.entry) := by
  induction cuts generalizing inbox entries with
  | nil => exact ⟨inbox, rfl, by simpa using stores⟩
  | cons cut rest ih =>
      obtain ⟨next, stepped, stored⟩ : ∃ next, listenerStep inbox cut.input = .ok next ∧
          next.Stores (entries ++ cut.chunk.map SentMessage.entry) := by
        obtain ⟨chunk, mallocs, entryGranted, arrayGranted⟩ := cut
        rcases whole _ List.mem_cons_self with empty | ⟨sent, single, memory, rfl, rfl⟩
        · obtain rfl : chunk = [] := empty
          exact ⟨inbox, rfl, by simpa using stores⟩
        · obtain rfl : chunk = [sent] := single
          obtain ⟨entry, outcome, same⟩ := listenerEntry_frames mallocs sent []
          obtain rfl := same.mpr memory
          obtain ⟨next, pushed, grown⟩ := messageInboxPush_stores inbox entries stores
            sent.entry.message sent.entry.error
          have received : StreamCut.input ⟨[sent], mallocs, true, true⟩ =
              ⟨.bytes ([sent].map SentMessage.bytes).flatten, mallocs, true, true⟩ := rfl
          refine ⟨next, ?_, grown⟩
          rw [listenerStep, received, outcome, Exec.ok_bind, reportEntry, pushed]
          rfl
      obtain ⟨final, continued, ends⟩ := ih next _ stored
        fun other member => whole other (List.mem_cons_of_mem _ member)
      refine ⟨final, ?_, ?_⟩
      · rw [List.map_cons, run_cons, stepped]
        exact continued
      · rwa [List.flatMap_cons, List.map_append, ← List.append_assoc]

/-- This message has an empty frame that ignores its checksum. -/
def SentMessage.empty : SentMessage where
  message := (Frame.ofShort [] [] 0 4 [] (by decide)).message 0
  frame := Frame.ofShort [] [] 0 4 [] (by decide)
  carries := Frame.message_carries _ 0
  fits := by decide

/-- This message has names and the payload of one byte. -/
def SentMessage.note (byte : UInt8) : SentMessage where
  message := (Frame.ofShort [0x61, 0x62] [0x63] 60 0 [byte] (by simp)).message 0
  frame := Frame.ofShort [0x61, 0x62] [0x63] 60 0 [byte] (by simp)
  carries := Frame.message_carries _ 0
  fits := by simp [Frame.size, Frame.ofShort]

/-- The worker loop stores every message of the stream exactly when each receive takes at most one frame. -/
theorem workerLoop_stream_iff (inbox : OctopipesServerInbox) (entries : List OctopipesServerMessage)
    (stores : inbox.Stores entries) (cuts : List StreamCut) :
    (∃ final, workerLoop inbox ((cuts.map StreamCut.input).map (true, ·)) = .ok final ∧
      final.Stores (entries ++ (cuts.flatMap StreamCut.chunk).map SentMessage.entry)) ↔
      ∀ cut ∈ cuts, cut.Whole := by
  rw [workerLoop_active]
  refine ⟨?_, listenerRun_whole inbox entries stores cuts⟩
  rintro ⟨final, returned, stored⟩
  have ran := (listenerRun_stores inbox final entries stores _ returned).resolve_right
    fun broken => not_stores_broken final _ broken stored
  have joined := List.append_cancel_left (stores_unique final _ _ ran stored)
  rw [List.flatMap_map, List.map_flatMap, flatMap_eq_iff _ _ _ fun cut _ => stored_length_le cut]
    at joined
  exact fun cut member => (stored_eq_iff cut).mp (joined cut member)

/-- A worker with a stored entry takes two encoded notes from the reads of its pipe. -/
theorem workerLoop_stream_iff_notes :
    let cuts : List StreamCut :=
      [⟨[.note 1], .granted, true, true⟩, ⟨[], .granted, true, true⟩, ⟨[.note 2], .granted, true, true⟩]
    (∀ sent ∈ cuts.flatMap StreamCut.chunk, octopipesEncode true sent.message =
      .ok (.ok (Block.ofBytes sent.bytes, { sent.message with checksum := sent.frame.wireChecksum }))) ∧
    (∀ cut ∈ cuts, cut.chunk ≠ [] → ∀ chunks : List ReadChunk, (chunks.map Subtype.val).flatten = cut.bytes →
      pipeReceive true 500 (chunks.map (.read · true) ++ [.timedOut]) = .ok (some cut.result.data)) ∧
    ∃ final, workerLoop ⟨.live [.live (SentMessage.note 0).entry], 1⟩
        ((cuts.map StreamCut.input).map (true, ·)) = .ok final ∧
      final.Stores ([(SentMessage.note 0).entry] ++ (cuts.flatMap StreamCut.chunk).map SentMessage.entry) := by
  intro cuts
  refine ⟨fun sent _ => sent.octopipesEncode_bytes,
    fun cut _ present chunks reads => pipeReceive_cut cut 500 (by decide) chunks present reads,
    (workerLoop_stream_iff _ _ ⟨Or.inr ⟨[], rfl⟩, rfl⟩ _).mpr ?_⟩
  simp [cuts, StreamCut.Whole, mallocsSuffice_granted]

/-- Two frames in one receive leave one entry. -/
theorem not_workerLoop_stream_double :
    let cuts : List StreamCut := [⟨[.empty, .empty], .granted, true, true⟩]
    ¬∃ final, workerLoop ⟨.null, 0⟩ ((cuts.map StreamCut.input).map (true, ·)) = .ok final ∧
      final.Stores ([] ++ (cuts.flatMap StreamCut.chunk).map SentMessage.entry) := by
  rintro cuts ⟨final, returned, stored⟩
  have length : final.inboxLen = 1 := by
    cases returned
    rfl
  rw [stored.inboxLen] at length
  cases length

end Octopipes
