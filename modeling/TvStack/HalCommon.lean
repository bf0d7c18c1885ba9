-- What the parts of the tuner HAL share: the errors that its services return, the
-- 13-bit PIDs that the packets have in their headers, and where packets come from.
import Mathlib.Tactic.Ring

namespace tuner_hal2_common

inductive HalInvalidArgumentKind
  | MissingDeliverySystem
  | UnsupportedStreamSelector
  | InvalidStreamIdRange
  | UnsupportedSymbolRate
  | UnsupportedBandwidth
  | MissingStreamSelector
  | UnsupportedFrequency
  | UnsupportedScanRange
  | NumericRange
  deriving DecidableEq

inductive HalInvalidStateKind
  | InvalidLifecycle
  deriving DecidableEq

inductive HalInternalKind
  | InvariantViolation
  deriving DecidableEq

/-- The errors that the packet paths and the LNB paths meet. -/
inductive HalError
  | Unsupported (detail : String)
  | InvalidArgument (kind : HalInvalidArgumentKind) (detail : String)
  | InvalidState (kind : HalInvalidStateKind) (detail : String)
  | Internal (kind : HalInternalKind) (detail : String)
  deriving DecidableEq

abbrev HalResult := Except HalError

/-- `TransportStreamPid`: 13 bits. -/
abbrev TransportStreamPid := { pid : UInt16 // pid ≤ 0x1fff }

/-- The 13 bits in the header of a packet. -/
def header_pid (header_byte_1 header_byte_2 : UInt8) : UInt16 :=
  ((header_byte_1 &&& 0x1f).toUInt16 <<< 8) ||| header_byte_2.toUInt16

theorem header_pid_le (a b : UInt8) : header_pid a b ≤ 0x1fff := by
  have ha : (a &&& 0x1f).toNat ≤ 0x1f := by
    exact Nat.and_le_right
  have hor : (header_pid a b).toNat < 2 ^ 13 := by
    rw [header_pid, UInt16.toNat_or]
    refine Nat.or_lt_two_pow ?_ ?_
    · rw [UInt16.toNat_shiftLeft, UInt8.toNat_toUInt16]
      have hshift : (8 : UInt16).toNat % 16 = 8 := rfl
      rw [hshift]
      omega
    · rw [UInt8.toNat_toUInt16]
      have := b.toNat_lt
      omega
  exact Nat.le_of_lt_succ hor

namespace TransportStreamPid

def from_mpeg_ts_header_bytes (header_byte_1 header_byte_2 : UInt8) : TransportStreamPid :=
  ⟨header_pid header_byte_1 header_byte_2, header_pid_le header_byte_1 header_byte_2⟩

def validate_u16 (pid : UInt16) : Option TransportStreamPid :=
  if h : pid ≤ 0x1fff then some ⟨pid, h⟩ else none

end TransportStreamPid

end tuner_hal2_common

namespace tuner_hal2_demux

theorem low_pid : (0x0100 : UInt16) ≤ 0x1fff := by decide

inductive TsInputOrigin
  | Frontend (frontend_generation : Nat)
  | PlaybackDvr (dvr_id : Int) (queue_identity queue_epoch : Nat)
  | SourceFilter (source_filter_id : Int) (source_filter_generation : Nat)
  deriving DecidableEq

end tuner_hal2_demux
