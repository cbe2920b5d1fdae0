import BareMetal.Manifest.Kinds

/-!
# The manifest printer

The program that a cluster's operator runs to get the definitions of the allocator's own kinds.
-/

/-- Prints the manifests of the allocator's own kinds. -/
def main : IO Unit := IO.print BareMetal.Manifest.manifests
