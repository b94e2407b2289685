import CodedVideo.Avc.ParameterStore
import CodedVideo.Avc.Report
import CodedVideo.Avc.SliceCoding
import CodedVideo.Decoder.Laws
import CodedVideo.Hevc.ParameterStore
import CodedVideo.Hevc.Report
import CodedVideo.Hevc.SliceCoding
import CodedVideo.Vvc.Coding
import CodedVideo.Vvc.Report
import CodedVideo.Proofs.Decoder.InStep
import CodedVideo.Proofs.NalUnit.EscapedSource
import CodedVideo.Proofs.Bits.Session
import CodedVideo.Proofs.NalUnit.Payload
import CodedVideo.Proofs.NalUnit.EscapedWriter
import CodedVideo.Proofs.Bits.PlainReads
import CodedVideo.Proofs.CodedField
import CodedVideo.Proofs.NalUnit.WrittenFields
import CodedVideo.Proofs.Decoder.Ensures
import CodedVideo.Proofs.NalUnit.Cut
import CodedVideo.Proofs.Hevc.SliceData
import CodedVideo.Proofs.Decoder.Blind
import CodedVideo.Proofs.Decoder.Attributed
import CodedVideo.Proofs.NalUnit.LaterBytes
import CodedVideo.Proofs.Avc.SliceGrammar
import CodedVideo.Proofs.Vvc.SequenceGrammar
import CodedVideo.Proofs.Hevc.SliceGrammar
import CodedVideo.Proofs.LaterBytes
import CodedVideo.Proofs.Avc.SequenceGrammar
import CodedVideo.Proofs.Hevc.SetGrammar
import CodedVideo.Proofs.SamePayload
import CodedVideo.Proofs.NalUnit.CutShort
import CodedVideo.Proofs.CutShort
import CodedVideo.Proofs.Avc.SliceReadBack
import CodedVideo.Proofs.Hevc.SliceReadBack
import CodedVideo.Proofs.IdTable
import CodedVideo.Proofs.InPlace
import CodedVideo.Proofs.Avc.StoreHistory
import CodedVideo.Proofs.Hevc.StoreHistory
import CodedVideo.Proofs.ParameterStores
import CodedVideo.Proofs.Decoder.Yields
import CodedVideo.Proofs.Hevc.ShortTermOrder
import CodedVideo.Proofs.Hevc.ShortTermArrays
import CodedVideo.Proofs.NalUnit.StoredBytes
import CodedVideo.Proofs.Avc.SequenceReadBack
import CodedVideo.Proofs.Hevc.UsabilityReadBack
import CodedVideo.Proofs.Hevc.SetPartsReadBack
import CodedVideo.Proofs.Hevc.SequenceReadBack
import CodedVideo.Proofs.Avc.PictureReadBack
import CodedVideo.Proofs.Hevc.PictureReadBack
import CodedVideo.Proofs.Hevc.VideoReadBack
import CodedVideo.Proofs.Bits.WriteSession
import CodedVideo.Proofs.NalUnit.WriteSession
import CodedVideo.Proofs.NalUnit.ByteStream
import CodedVideo.Proofs.NalUnit.Sample
import CodedVideo.Proofs.NalUnit.Framing
import CodedVideo.Proofs.NalUnit.ReaderCounts
import CodedVideo.Proofs.Bits.Refusals
import CodedVideo.Proofs.Decoder.Widths
import CodedVideo.Proofs.Decoder.Confined
import CodedVideo.Proofs.SharedConfinement
import CodedVideo.Proofs.Avc.Confinement
import CodedVideo.Proofs.Vvc.Confinement
import CodedVideo.Proofs.Hevc.SetConfinement
import CodedVideo.Proofs.Hevc.SliceConfinement
import CodedVideo.Proofs.Hevc.SliceConsistency
import CodedVideo.Proofs.Decoder.Reports
import CodedVideo.Proofs.Avc.Reports
import CodedVideo.Proofs.Hevc.Reports
import CodedVideo.Proofs.ErrorReports
import CodedVideo.Proofs.NalUnit.EscapedForm
import CodedVideo.Proofs.SliceTypes
import CodedVideo.Proofs.Vvc.SequenceReadBack
import CodedVideo.Proofs.Hevc.StoreOrder
import CodedVideo.Proofs.Bits.Latch
import CodedVideo.Proofs.Standing
import CodedVideo.Proofs.CodeEndings
import CodedVideo.Proofs.Decoder.Endings
import CodedVideo.Proofs.Hevc.PredictedSets
import CodedVideo.Proofs.NalUnit.TrailingBits
import CodedVideo.Proofs.Decoder.Spends
import CodedVideo.Proofs.Avc.ListSizes
import CodedVideo.Proofs.ListSizes
import CodedVideo.Proofs.Hevc.DecodedSets
import CodedVideo.Proofs.MachineWords
import CodedVideo.Proofs.Hevc.SequenceRanges
import CodedVideo.Proofs.PictureSizes
import CodedVideo.Proofs.Avc.PictureReference
import CodedVideo.Proofs.Decoder.Spells
import CodedVideo.Proofs.Hevc.VideoSpelling
import CodedVideo.Proofs.Decoder.Accepts
import CodedVideo.Proofs.Avc.ScalingLists
import CodedVideo.Proofs.Avc.ChangeCycle
import CodedVideo.Proofs.DottedText
import CodedVideo.Proofs.Hevc.CodecString
import CodedVideo.Proofs.Hevc.ScalingLists
import CodedVideo.Proofs.Bits.WordReader
import CodedVideo.Proofs.Bits.WordWriter
import CodedVideo.Proofs.NalUnit.WordReader
import CodedVideo.Proofs.NalUnit.WordWriter
