/-! # Facts about the desktop session -/

namespace WindowChrome

structure Font where
  family : String
  pixelSize : Int
  deriving DecidableEq, Repr

namespace Font

def standard : Font := ⟨"Noto Sans CJK SC", 15⟩

def text (font : Font) : String := s!"{font.family} {font.pixelSize}px"

end Font

/-- The theme of a desktop style: 1 for the dark style and 0 for any other. -/
def themeOfStyle (style : Option String) : Int :=
  if style = some "ukui-dark" then 1 else 0

structure Session where
  screenDpi : Option UInt32 := none
  screenHeight : Int := 1080
  style : Option String := none
  titleFont : Font := .standard
  deriving DecidableEq, Repr

namespace Session

/-- The resolution of a screen that reports none. -/
def standardDpi : UInt32 := 96

def leastDpi : UInt32 := 30

def dpi (session : Session) : UInt32 :=
  max (session.screenDpi.getD standardDpi) leastDpi

def themeId (session : Session) : Int := themeOfStyle session.style

end Session

end WindowChrome
