import HalBridge.QualifiedName.Basic
import HalBridge.Text.Lines

/-!
The names that a HIDL package and its types carry in AIDL. The canonical package drops the minor
version, and the major version too if it is 1; nested types are lifted to the top level.
-/

namespace HalBridge.QualifiedName

def canonicalPackage (q : QualifiedName) : String :=
  if q.version.major = 1 then q.package else q.package ++ toString q.version.major

def canonicalTypeName (q : QualifiedName) : String :=
  String.join q.names

def canonicalName (q : QualifiedName) : String :=
  q.canonicalPackage ++ "." ++ q.canonicalTypeName

def canonicalPath (q : QualifiedName) : String :=
  Text.dotsToSlashes q.canonicalPackage

def legacyPath (q : QualifiedName) : String :=
  Text.dotsToSlashes q.package

end HalBridge.QualifiedName
