/-
**Sensitive methods.**

A label begins with the path of a class, which ends at the first semicolon. A method is sensitive if
one of the components of that path, between slashes, is in a catalog of class names. A catalog name
inside a longer component does not count, nor does anything after the first semicolon.
-/
import ApkFeatures.CallGraph.Basic

namespace ApkFeatures

/-- The path of the class of a method: its label up to the first semicolon. -/
def classPath (label : List Char) : List Char := label.takeWhile (· ≠ ';')

/-- A component of the class path is in the catalog. -/
def isSensitive (catalog : List String) (label : String) : Bool :=
  ((classPath label.toList).splitOn '/').any fun component =>
    catalog.any fun name => name.toList == component

/-- The sensitive methods of a graph, in its order. -/
def CallGraph.sensitive (graph : CallGraph) (catalog : List String) : List Method :=
  graph.methods.filter fun method => isSensitive catalog method.label

/-- The classes of the platform whose methods are sensitive. -/
def sensitiveClasses : List String :=
  ["TelephonyManager", "SmsManager", "LocationManager", "AudioManager", "HttpURLConnection",
    "ConnectivityManager", "BroadcastReceiver", "Cipher", "AccessibleObject", "PackageManager"]

end ApkFeatures
