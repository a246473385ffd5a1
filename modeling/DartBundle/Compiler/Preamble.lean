/-!
This module contains the text that bundles start with, so that they find in Node.js what they expect
of a browser.
-/

namespace DartBundle

/--
The preamble, line by line. It makes an object `self` that holds the globals of Node.js and what a
CommonJS module is given.
-/
def nodePreambleLines : List String := [
  "// Node.js preamble for dart2js output.",
  "var dartNodeIsActuallyNode = typeof process !== \"undefined\" && !!(process.versions && process.versions.node);",
  "var self = Object.create(dartNodeIsActuallyNode ? global : globalThis);",
  "self.self = self;",
  "self.require = typeof require !== \"undefined\" ? require : undefined;",
  "self.module = typeof module !== \"undefined\" ? module : undefined;",
  "self.exports = typeof exports !== \"undefined\" ? exports : undefined;",
  "self.process = typeof process !== \"undefined\" ? process : undefined;",
  "self.__dirname = typeof __dirname !== \"undefined\" ? __dirname : undefined;",
  "self.__filename = typeof __filename !== \"undefined\" ? __filename : undefined;",
  "if (dartNodeIsActuallyNode && !self.location) \x7b",
  "  self.location = \x7b",
  "    get href() \x7b",
  "      return \"file://\" + process.cwd().replace(/\\\\/g, \"/\") + \"/\";",
  "    \x7d",
  "  \x7d;",
  "\x7d",
  "self.scheduleImmediate = typeof setImmediate !== \"undefined\"",
  "    ? function (callback) \x7b setImmediate(callback); \x7d",
  "    : function (callback) \x7b setTimeout(callback, 0); \x7d;"]

def nodePreamble : String :=
  String.join (nodePreambleLines.map (· ++ "\n"))

end DartBundle
