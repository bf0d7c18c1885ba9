-- A duplicate packet is transparent to the assembly: directly behind a packet with
-- payload, its copy changes no section or PES event, but for a packet that says
-- itself that the continuity breaks.
import TvStack.PipelineStreams

open Isolation Machines Words

namespace tuner_hal2_demux.packet_pipeline

open tuner_hal2_common ts_core PacketPipeline

variable {filters : List PipelineFilterView} {arrival : Arrival} {self : PacketPipeline}

/-! ## What the continuity remembers -/

variable (packet : ValidatedTsPacket) (pid : PacketPid) (origin : TsInputOrigin)

end tuner_hal2_demux.packet_pipeline
