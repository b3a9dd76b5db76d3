import Locator.Path

namespace Locator

inductive Platform where
  | unix
  | windows
deriving DecidableEq, Repr

namespace Platform

def current : Platform := .unix

def name : Platform → String
  | .unix => "unix"
  | .windows => "windows"

def inspect : Platform → String
  | .unix => "Unix"
  | .windows => "Windows"

def binaryName : Platform → String
  | .unix => "jarl"
  | .windows => "jarl.exe"

end Platform

def bundledPath (root : Path) (platform : Platform) : Path :=
  ((root.join (.ofString "bundled")).join (.ofString "bin")).join (.ofString platform.binaryName)

end Locator
