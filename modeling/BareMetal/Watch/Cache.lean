import BareMetal.Watch.Event
import BareMetal.Watch.Task

/-!
# Caches

The objects of a collection as a watcher last told of them.  Before the first complete listing the
cache is empty and not ready.
-/

namespace BareMetal

/-- The objects of a collection as far as they are known. -/
structure Cache where
  /-- The objects listed since the listing began. -/
  staged : List Watched := []
  /-- The known objects, each at another address. -/
  objects : List Watched := []
  /-- Whether there was a complete listing. -/
  isReady : Bool := false

namespace Cache

/-- The objects without the one at an address. -/
def drop (address : ObjectAddress) (objects : List Watched) : List Watched :=
  objects.filter fun object => object.address != address

/-- The objects with one put in place of that at its address. -/
def put (objects : List Watched) (object : Watched) : List Watched :=
  drop object.address objects ++ [object]

/-- The object at an address. -/
def get? (cache : Cache) (address : ObjectAddress) : Option Watched :=
  cache.objects.find? fun object => object.address == address

/-- The addresses of the known objects. -/
def known (cache : Cache) : List ObjectAddress := cache.objects.map Watched.address

/-- Follows a watcher of the collection. -/
def follow (cache : Cache) : WatchEvent Watched → Cache
  | .listBegins => { cache with staged := [] }
  | .listed object => { cache with staged := put cache.staged object }
  | .listEnds => { staged := [], objects := cache.staged, isReady := true }
  | .changed object => { cache with objects := put cache.objects object }
  | .deleted object => { cache with objects := drop object.address cache.objects }
  | .failed => cache

end Cache

end BareMetal
