/-!
# Case of ASCII letters
-/

namespace TrackerTraffic.Text

/-- Texts that differ in the case of ASCII letters only. -/
def sameUpToAsciiCase (s t : String) : Bool :=
  s.toList.map Char.toLower == t.toList.map Char.toLower

end TrackerTraffic.Text
