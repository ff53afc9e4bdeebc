import DashboardCompiler.Number

/-!
# Sample data

The values that unbound widgets show.
-/

namespace DashboardCompiler.Display.Sample

def decimal (digits : Nat) : Number := .double (Double.ofDecimal false digits (-1))

def chartLabels : List String := ["00:00", "00:05", "00:10", "00:15", "00:20", "00:25"]

def chartValues : List Int := [23, 25, 24, 27, 30, 28]

def chartSeries : String := "Series 1"

def bars : List (String × Int) := [("A", 25), ("B", 40), ("C", 15), ("D", 30)]

def tableHeaders : List String := ["ID", "Name", "Status", "Value"]

def tableRows : List (List String) :=
  [["001", "Item A", "Active", "125"],
   ["002", "Item B", "Pending", "87"],
   ["003", "Item C", "Complete", "203"],
   ["004", "Item D", "Active", "156"]]

def tableColumnWidth : Nat := 10

def sparkline : List Int := [23, 25, 24, 27, 30, 28, 26, 29, 31, 28, 25, 27]

def gauge : Int := 45

def progress : Int := 45

def metricValue : Number := decimal 425

def metricPrevious : Number := decimal 382

def metricHistory : List Number :=
  [.int 30, .int 32, .int 35, .int 38, .int 40, .int 42, .int 39, .int 41, .int 43, decimal 425]

def log : List (String × String) :=
  [("INFO", "Application started"),
   ("INFO", "Connected to data source"),
   ("DEBUG", "Polling interval set"),
   ("WARN", "High memory usage detected"),
   ("INFO", "Processing request"),
   ("ERROR", "Connection timeout")]

end DashboardCompiler.Display.Sample
