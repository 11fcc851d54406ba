import Labeling.Sample.Noise
import Labeling.Text.Form
import Labeling.Xml.Element

namespace Labeling.Sample

open Xml (Element)

def seriesLength : Nat := 20

def seriesAddress : String := "/samples/time-series.csv"

def channelColumns (e : Element) : List String :=
  (e.descendants.filter fun d => d.name == "Channel").filterMap fun d => d.attribute? "column"

def timeColumn (e : Element) : String := (e.attribute? "timeColumn").getD "time"

def stretches {α : Type} (size : Nat) : Nat → List α → List (List α)
  | 0, _ => []
  | count + 1, xs => xs.take size :: stretches size count (xs.drop size)

/-- The time column counts up; each channel takes the next numbers of the noise. A channel that
repeats the name of a column replaces it. -/
def seriesTable (time : String) (columns : List String) : Json :=
  let noise := Noise.numbers (seriesLength * columns.length)
  let rows := stretches seriesLength columns.length noise
  .record ((time, .array ((List.range seriesLength).map .ofNat))
    :: (columns.zip rows).map fun c => (c.1, .array (c.2.map .ofBinary64)))

def seriesUrl (e : Element) : String :=
  let parameter (name key : String) := (e.attribute? key).toList.map fun v => (name, v)
  seriesAddress ++ "?" ++ Text.Form.query
    ([("time", timeColumn e), ("values", String.intercalate "," (channelColumns e))]
      ++ parameter "sep" "sep" ++ parameter "tf" "timeFormat")

def seriesData (e : Element) : Json :=
  if (e.attribute? "valueType").any (Text.sameIgnoringCase "json") then
    seriesTable (timeColumn e) (channelColumns e)
  else .string (seriesUrl e)

end Labeling.Sample
