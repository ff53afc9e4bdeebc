/-!
# Glyphs and timing

The characters that all targets draw with, the periods of their timers, and the lengths of the histories
that they keep.
-/

namespace DashboardCompiler.Display

def fillGlyph : Char := '█'

def emptyGlyph : Char := '░'

def lineRamp : List Char := ['_', '▁', '▂', '▃', '▄', '▅', '▆', '▇', '█']

def barRamp : List Char := ['▁', '▂', '▃', '▄', '▅', '▆', '▇', '█']

def flatLine : Char := '─'

def gaugeGlyphs : List Char := ['○', '◔', '◑', '◕', '●']

def trendUp : String := "↗"

def trendDown : String := "↘"

def trendFlat : String := "→"

def plotPoint : Char := '•'

def plotGrid : Char := '·'

def animationTickMs : Nat := 200

def simulationTickMs : Nat := 1000

def httpTimeoutSeconds : Nat := 10

def commandTimeoutSeconds : Nat := 30

def progressStep : Nat := 2

def barBand : Nat := 5

def gaugeArcCells : Nat := 20

def sparklineStep : Nat := 3

/-- Values that a sparkline of its own keeps. -/
def sparklineHistory : Nat := 50

/-- Values that the sparkline inside a metric card keeps. -/
def metricCardHistory : Nat := 20

def metricCardSparkPoints : Nat := 10

/-- How far one tick of the simulation moves the value of a metric card, as a share of it. -/
def metricCardDrift : String := "0.05"

def byteUnits : List String := ["B", "KB", "MB", "GB", "TB"]

/-- The keys under which a source entry may hold the value of a widget, tried in order. -/
def valueKeys : List String := ["value", "data", "content", "output"]

end DashboardCompiler.Display
