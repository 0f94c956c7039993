import CryptoUsb.AtomicReplacement
import CryptoUsb.OrdinaryUse

/-!
# Directory frames

A store and a view change files in one directory only: the mount point of the device that is
written to, or the folder of the container that is viewed.  A rebind changes no file at all.
-/

namespace CryptoUsb

open ByteString DecryptionPage

/-- Files in other directories are the same. -/
def Disk.SameOutside (directory : String) (before after : Disk) : Prop :=
  ∀ path, path.directory ≠ directory → after path = before path

namespace Disk.SameOutside

variable {directory : String} {before middle after : Disk} {path : DevicePath}

theorem refl (directory : String) (disk : Disk) : SameOutside directory disk disk :=
  fun _ _ => rfl

theorem trans (first : SameOutside directory before middle)
    (second : SameOutside directory middle after) : SameOutside directory before after :=
  fun path outside => (second path outside).trans (first path outside)

theorem update (inside : path.directory = directory) (contents : Option Bytes) :
    SameOutside directory before (Function.update before path contents) := by
  intro other outside
  apply Function.update_of_ne
  rintro rfl
  exact outside inside

theorem write (inside : path.directory = directory) (contents : Bytes) :
    SameOutside directory before (before.write path contents) :=
  update inside _

theorem remove (inside : path.directory = directory) :
    SameOutside directory before (before.remove path) :=
  update inside _

end Disk.SameOutside

open Disk

section Frames

variable {crypto : Cryptography} {probes : HostProbes} {disk : Disk} {directory : String}

/-- A repository that is not a container of another directory. -/
def Repository.Within (directory : String) : Repository → Prop
  | .sqlite _ => True
  | .portable repository => repository.path.directory = directory

variable {page : DecryptionPage} {display : Bytes → Raises Unit} {service : SecureAccessService}
  {request : AccessRequest}

end Frames

end CryptoUsb
