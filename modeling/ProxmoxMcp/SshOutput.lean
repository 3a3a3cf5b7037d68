/-
  File:      ProxmoxMcp/SshOutput.lean
  Subject:   THE OUTPUT OF A COMMAND OVER SSH, from the bytes that the channel delivers to the text
             that `SshExecutor.exec` gives.

  The two streams come in chunks of any length, interleaved with each other and with the report of
  the exit. Every chunk is decoded for itself (`chunk.toString()`), so a character that two chunks
  share is lost (`output_exact_iff`). What is sent as base64 is not touched by it
  (`file_read_exact`).
-/
import ProxmoxMcp.ExitCodes
import ProxmoxMcp.HostKeys
import ProxmoxMcp.Lib.Chunks

namespace ProxmoxMcp

/-! ## 1. The channel -/

/-- The two streams of a command. -/
inductive OutputStream where
  | stdout
  | stderr
  deriving DecidableEq, Repr

/-- What the channel delivers. -/
inductive ChannelEvent where
  | data (stream : OutputStream) (chunk : List UInt8)
  | exit (code : Option Int) (signal : Option String)
  | close
  | failed (message : String)
  deriving DecidableEq, Repr

/-- `chunk.toString()`. -/
def chunkText (chunk : List UInt8) : String := String.ofList (Utf8.decode chunk)

/-- What the listeners of `exec` hear. -/
def ChannelEvent.heard : ChannelEvent → SshEvent
  | .data .stdout chunk => .stdout (chunkText chunk)
  | .data .stderr chunk => .stderr (chunkText chunk)
  | .exit code signal => .exit code signal
  | .close => .close
  | .failed message => .failed message

/-- The chunks of a stream, up to the event that settles the call. -/
def chunksOf (stream : OutputStream) : List ChannelEvent → List (List UInt8)
  | [] => []
  | .data source chunk :: events =>
      if source = stream then chunk :: chunksOf stream events else chunksOf stream events
  | .exit _ _ :: events => chunksOf stream events
  | .close :: _ => []
  | .failed _ :: _ => []

/-- The bytes of a stream. -/
def sentBytes (stream : OutputStream) (events : List ChannelEvent) : List UInt8 :=
  (chunksOf stream events).flatten

def CommandResult.output (result : CommandResult) : OutputStream → String
  | .stdout => result.stdout
  | .stderr => result.stderr

def SshChannel.output (channel : SshChannel) : OutputStream → String
  | .stdout => channel.stdout
  | .stderr => channel.stderr

/-! ## 2. What is heard of a stream -/

section

variable {events : List ChannelEvent} {result : CommandResult} {stream : OutputStream}

/-- The output is what was collected before, and the chunks that follow. -/
theorem exec_output {channel : SshChannel}
    (h : channel.exec (events.map ChannelEvent.heard) = some (.ok result)) :
    (result.output stream).toList =
      (channel.output stream).toList ++ (chunksOf stream events).flatMap Utf8.decode := by
  induction events generalizing channel with
  | nil => cases h
  | cons event events ih =>
    cases event with
    | data source chunk =>
      cases source with
      | stdout =>
        rw [@ih { channel with stdout := channel.stdout ++ chunkText chunk } h]
        cases stream with
        | stdout => simp [chunksOf, SshChannel.output, chunkText]
        | stderr => simp [chunksOf, SshChannel.output]
      | stderr =>
        rw [@ih { channel with stderr := channel.stderr ++ chunkText chunk } h]
        cases stream with
        | stdout => simp [chunksOf, SshChannel.output]
        | stderr => simp [chunksOf, SshChannel.output, chunkText]
    | exit code signal =>
      rw [@ih { channel with exitCode := code.getD 0, signalName := signal } h]
      cases stream <;> rfl
    | close =>
      cases h
      cases stream <;> exact (List.append_nil _).symm
    | failed message => cases h

/-- The text of a stream is its chunks, each decoded for itself. -/
theorem exec_chunks (h : SshExecutor.exec (events.map ChannelEvent.heard) = some (.ok result)) :
    (result.output stream).toList = (chunksOf stream events).flatMap Utf8.decode := by
  rw [exec_output h]
  cases stream <;> rfl

/-- **The text of a stream is the text that was sent exactly where no chunk begins inside a
    character**, however the streams are interleaved. -/
theorem output_exact_iff (h : SshExecutor.exec (events.map ChannelEvent.heard) = some (.ok result))
    (s : String) (hsent : sentBytes stream events = utf8Bytes s) :
    result.output stream = s ↔ ∀ chunk ∈ chunksOf stream events, ¬ Utf8.BeginsInside chunk := by
  rw [← Utf8.decode_chunks_iff hsent, ← exec_chunks h, String.toList_inj]

/-- One character in two chunks, with an error message between them. -/
def splitOutput : List ChannelEvent := [
  .data .stdout [0x63, 0x61, 0x66, 0xC3],
  .data .stderr [0x21],
  .data .stdout [0xA9],
  .exit (some 0) none,
  .close]

theorem output_exact_iff_split :
    ∃ result, SshExecutor.exec (splitOutput.map ChannelEvent.heard) = some (.ok result) ∧
      result.output .stdout ≠ "café" := by
  refine ⟨_, rfl, fun heq => ?_⟩
  have hinside := (@output_exact_iff splitOutput _ .stdout rfl "café" (by decide)).mp heq
  exact hinside [0xA9] (by decide) (by decide)

end

/-! ## 3. Files -/

theorem alphanum_ascii {c : Char} (h : c.isAlphanum = true) : c.toNat < 0x80 := by
  have hval : c.val.toNat = c.toNat := rfl
  simp only [Char.isAlphanum, Char.isAlpha, Char.isUpper, Char.isLower, Char.isDigit, ge_iff_le,
    UInt32.le_iff_toNat_le, Bool.or_eq_true, Bool.and_eq_true, decide_eq_true_eq, hval] at h
  rcases h with (h | h) | h
  · exact Nat.lt_of_le_of_lt h.2 (by decide)
  · exact Nat.lt_of_le_of_lt h.2 (by decide)
  · exact Nat.lt_of_le_of_lt h.2 (by decide)

theorem isStandard_ascii {c : Char} (h : Base64.isStandard c = true) : c.toNat < 0x80 := by
  simp only [Base64.isStandard, Bool.or_eq_true, beq_iff_eq] at h
  rcases h with ((h | rfl) | rfl) | rfl
  · exact alphanum_ascii h
  · decide
  · decide
  · decide

/-- The bytes of a base64 are below `0x80`. -/
theorem base64_ascii (content : List UInt8) {b : UInt8}
    (h : b ∈ utf8Bytes (base64Text content)) :
    b.toNat < 0x80 := by
  rw [utf8Bytes, base64Text, String.toList_ofList, Utf8.encode, List.mem_flatMap] at h
  obtain ⟨c, hc, hb⟩ := h
  have hascii := isStandard_ascii (Base64.encode_alphabet content c hc)
  rw [Utf8.encodeChar_ascii hascii, List.mem_singleton] at hb
  rw [hb, Utf8.toNat_ofNat (Nat.lt_trans hascii (by decide))]
  exact hascii

/-- **A file that comes as base64 comes as it is**, whatever the chunks are and whatever comes between
    them: the read of `proxmoxFileReadBytes` over SSH and over `pct exec`. -/
theorem file_read_exact {events : List ChannelEvent} {result : CommandResult} (content : List UInt8)
    (h : SshExecutor.exec (events.map ChannelEvent.heard) = some (.ok result))
    (hsent : sentBytes .stdout events = utf8Bytes (base64Text content)) :
    Base64.decode (Text.trim result.stdout.toList) = content := by
  have hchunks : ∀ chunk ∈ chunksOf .stdout events, ¬ Utf8.BeginsInside chunk := by
    intro chunk hchunk
    refine Utf8.not_beginsInside_ascii fun b hb => base64_ascii content ?_
    rw [← hsent]
    exact List.mem_flatten_of_mem hchunk hb
  have htext : result.stdout = base64Text content :=
    (output_exact_iff h (base64Text content) hsent).mpr hchunks
  have htrimmed : Text.Trimmed (Base64.encode content) :=
    Text.trimmed_of_no_space fun c hc => isSpace_of_standard (Base64.encode_alphabet content c hc)
  have htrim := Text.trim_of_parts (a := []) (b := []) Text.blank_nil htrimmed Text.blank_nil
  rw [List.nil_append, List.append_nil] at htrim
  rw [htext, base64Text, String.toList_ofList, htrim, Base64.decode_encode]

/-- Two bytes as base64 in two chunks, with an error message between them. -/
def splitFile : List ChannelEvent := [
  .data .stdout [0x61, 0x47],
  .data .stderr [0xC3],
  .data .stdout [0x6B, 0x3D],
  .exit (some 0) none,
  .close]

theorem file_read_exact_split : ∃ result,
    SshExecutor.exec (splitFile.map ChannelEvent.heard) = some (.ok result) ∧
      Base64.decode (Text.trim result.stdout.toList) = [0x68, 0x69] :=
  ⟨_, rfl, @file_read_exact splitFile _ [0x68, 0x69] rfl (by decide)⟩

end ProxmoxMcp
