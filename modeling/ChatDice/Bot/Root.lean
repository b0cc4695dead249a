import ChatDice.Files

/-!
# The root directory

The program looks for its files in the root directory of the project that it belongs to. Going
outwards from the program's own file, the first directory with one of the `marks` in it is the root;
where there is none, it is the directory of the file.
-/

namespace ChatDice.Bot

/-- The names that mark a root directory, whether they are files or directories. -/
def marks : List Text.Raw :=
  [".git", "pyproject.toml"]

/-- Whether a directory is marked as a root. -/
def isMarked (files : Files) (directory : Path) : Bool :=
  marks.any fun mark => files.occupied (directory ++ [mark])

/-- The root directory for a program at a path. -/
def findRoot (files : Files) (program : Path) : Path :=
  (program.ancestors.find? (isMarked files)).getD program.around

end ChatDice.Bot
