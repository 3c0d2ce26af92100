import WindowChrome.Host
import WindowChrome.Preferences

/-! # The support report -/

namespace WindowChrome.Support

def line (label value : String) : String := s!"{label}: {value}\n"

def report (host : Host) (preferences : Preferences) : String :=
  line "Plugin" (host.liveName?.getD "") ++
  line "Theme" (host.theme.getD "") ++
  line "Plugin recommends border size" (host.recommended?.getD "No") ++
  line "Blur" (if host.blur then "true" else "false") ++
  String.join (Preferences.Key.all.map fun key =>
    line key.name (preferences.get key).text)

end WindowChrome.Support
