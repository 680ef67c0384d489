/-!
# Capabilities

A type names the capabilities that it implements. Two of them mark it as one that a companion is
made for; they are compared as whole names.
-/

namespace Companion.Capability

def augmentable : String :=
  "org.opendaylight.yangtools.yang.binding.Augmentable"

def augmentation : String :=
  "org.opendaylight.yangtools.yang.binding.Augmentation"

def markers : List String :=
  [augmentable, augmentation]

def isMarker (capability : String) : Bool :=
  markers.contains capability

end Companion.Capability
