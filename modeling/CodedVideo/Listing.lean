import CodedVideo.AspectRatio
import CodedVideo.PredictionWeight
import CodedVideo.SignalDescription
import CodedVideo.Window

/-!
# Listings

A decoded structure can be listed for inspection: every syntax element under the name that the
standard gives it, and with the value that the standard infers where it is not coded. Listings show
structures flat, however the structure groups its parts. A report adds to the listing of a structure
the values that are derived from it.
-/

namespace CodedVideo

/-- A listed value. -/
inductive Element where
  | absent
  | flag (value : Bool)
  | number (value : Int)
  | text (value : String)
  | sequence (elements : List Element)
  | record (fields : List (String × Element))

/-- Types whose values can be listed. -/
class Listed (α : Type) where
  /-- The listing of a value. -/
  listed : α → Element

export Listed (listed)

namespace Element

/-- A choice that carries a value. -/
def choice (name : String) (content : Element) : Element :=
  record [(name, content)]

/-- A listing with the values that are derived from what is listed. -/
def report (listing : Element) (derived : List (String × Element)) : Element :=
  record [("value", listing), ("derived", record derived)]

end Element

/-! ## Values -/

instance : Listed Element := ⟨id⟩

instance : Listed Bool := ⟨.flag⟩

instance : Listed Nat := ⟨fun value => .number value⟩

instance : Listed Int := ⟨.number⟩

instance : Listed String := ⟨.text⟩

instance {α : Type} [Listed α] : Listed (Option α) where
  listed
    | none => .absent
    | some value => listed value

instance {α : Type} [Listed α] : Listed (List α) where
  listed values := .sequence (values.map listed)

instance {α β : Type} [Listed α] [Listed β] : Listed (α × β) where
  listed pair := .sequence [listed pair.1, listed pair.2]

instance : Listed AspectRatio where
  listed ratio := listed (ratio.width, ratio.height)

/-! ## Shared structures -/

instance : Listed Weight where
  listed weight := listed (weight.factor, weight.offset)

instance : Listed PredictionWeight where
  listed weight := .record [("luma", listed weight.luma), ("chroma", listed weight.chroma)]

/-- The syntax elements of a window, whose names open in a given way. -/
def Window.listing (window : Window) (opening : String) : Element :=
  .record [
    (opening ++ "left_offset", listed window.left),
    (opening ++ "right_offset", listed window.right),
    (opening ++ "top_offset", listed window.top),
    (opening ++ "bottom_offset", listed window.bottom)]

/-- The syntax elements of a signal description; `matrixName` is the name of the matrix
coefficients, which differs between standards. -/
def SignalDescription.elements (description : SignalDescription) (matrixName : String) :
    List (String × Element) :=
  let ratio := description.aspectRatio.map (·.ratio)
  let colour := description.signalType.bind (·.colour)
  [("aspect_ratio_info_present_flag", listed description.aspectRatio.isSome),
    ("aspect_ratio_idc", listed ((description.aspectRatio.map (·.index)).getD 0)),
    ("sar_width", listed ((ratio.map (·.width)).getD 0)),
    ("sar_height", listed ((ratio.map (·.height)).getD 0)),
    ("overscan_info_present_flag", listed description.overscan.isSome),
    ("overscan_appropriate_flag", listed (description.overscan.getD false)),
    ("video_signal_type_present_flag", listed description.signalType.isSome),
    ("video_format", listed ((description.signalType.map (·.format)).getD 0)),
    ("video_full_range_flag", listed ((description.signalType.map (·.fullRange)).getD false)),
    ("colour_description_present_flag", listed colour.isSome),
    ("colour_primaries", listed ((colour.map (·.primaries)).getD 0)),
    ("transfer_characteristics", listed ((colour.map (·.transferCharacteristics)).getD 0)),
    (matrixName, listed ((colour.map (·.matrixCoefficients)).getD 0)),
    ("chroma_loc_info_present_flag", listed description.chromaLocation.isSome),
    ("chroma_sample_loc_type_top_field",
      listed ((description.chromaLocation.map (·.topField)).getD 0)),
    ("chroma_sample_loc_type_bottom_field",
      listed ((description.chromaLocation.map (·.bottomField)).getD 0))]

end CodedVideo
