import Wayfinder.Text.Ranges

namespace Wayfinder.Text

/-- The letters that keep a place free and show nothing in it. -/
def isFiller (c : Char) : Bool := inRanges [(0x115f, 0x1160), (0x3164, 0x3164), (0xffa0, 0xffa0)] c

end Wayfinder.Text
