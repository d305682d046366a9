import CauseLint.Hierarchy.Basic

/-!
# Classes known from the start

The throwable classes of the standard library, the classes their descriptions need, and the fluent
logging interface with its loggers.
-/

namespace CauseLint.Hierarchy

/-- A class with its direct supertypes and the methods known of it. -/
def classInfo (name : String) (supertypes : List String) (methods : List (String × String) := []) :
    ClassInfo := ⟨name, supertypes, false, .ofList methods⟩

/-- An interface with its direct supertypes and the methods known of it. -/
def interfaceInfo (name : String) (supertypes : List String)
    (methods : List (String × String) := []) : ClassInfo :=
  ⟨name, supertypes, true, .ofList methods⟩

/-- The methods of the logging interface; most return the statement under construction. -/
def apiMethods : List (String × String) :=
  [("withCause", selfMarker), ("withStackTrace", selfMarker), ("every", selfMarker),
   ("onAverageEvery", selfMarker), ("atMostEvery", selfMarker), ("per", selfMarker),
   ("with", selfMarker), ("withInjectedLogSite", selfMarker), ("log", "void"),
   ("logVarargs", "void"), ("isEnabled", "boolean")]

/-- The methods of a logger class (`_logger_methods`): the selectors of a level start a
statement. -/
def loggerMethods (api logger : String) : List (String × String) :=
  (["atSevere", "atWarning", "atInfo", "atConfig", "atFine", "atFiner", "atFinest", "at"].map
    fun selector => (selector, api)) ++ [("forEnclosingClass", logger)]

/-- The methods of everything that can be thrown. -/
def throwableMethods : List (String × String) :=
  [("getCause", throwableClass), ("fillInStackTrace", throwableClass),
   ("initCause", throwableClass), ("getMessage", stringClass),
   ("getLocalizedMessage", stringClass), ("toString", stringClass)]

/-- The classes known from the start. -/
def builtinClasses : List ClassInfo :=
  [classInfo objectClass [] [("toString", stringClass), ("hashCode", "int"), ("equals",
     "boolean"), ("getClass", classClass)],
   interfaceInfo "java.io.Serializable" [],
   interfaceInfo "java.lang.CharSequence" [],
   interfaceInfo "java.lang.Comparable" [],
   interfaceInfo "java.lang.Cloneable" [],
   classInfo stringClass [objectClass, "java.io.Serializable", "java.lang.CharSequence",
     "java.lang.Comparable"] [("format", stringClass), ("valueOf", stringClass), ("trim",
     stringClass), ("isEmpty", "boolean")],
   classInfo classClass [objectClass] [("getName", stringClass), ("getSimpleName", stringClass)],
   classInfo "java.lang.Enum" [objectClass, "java.lang.Comparable", "java.io.Serializable"]
     [("name", stringClass)],
   classInfo "java.lang.Record" [objectClass],
   classInfo "java.util.logging.Level" [objectClass],
   classInfo throwableClass [objectClass, "java.io.Serializable"] throwableMethods,
   classInfo "java.lang.Exception" [throwableClass],
   classInfo "java.lang.Error" [throwableClass],
   classInfo "java.lang.RuntimeException" ["java.lang.Exception"],
   classInfo "java.lang.IllegalArgumentException" ["java.lang.RuntimeException"],
   classInfo "java.lang.NumberFormatException" ["java.lang.IllegalArgumentException"],
   classInfo "java.lang.IllegalStateException" ["java.lang.RuntimeException"],
   classInfo "java.lang.NullPointerException" ["java.lang.RuntimeException"],
   classInfo "java.lang.UnsupportedOperationException" ["java.lang.RuntimeException"],
   classInfo "java.lang.IndexOutOfBoundsException" ["java.lang.RuntimeException"],
   classInfo "java.lang.ArrayIndexOutOfBoundsException" ["java.lang.IndexOutOfBoundsException"],
   classInfo "java.lang.StringIndexOutOfBoundsException" ["java.lang.IndexOutOfBoundsException"],
   classInfo "java.lang.ClassCastException" ["java.lang.RuntimeException"],
   classInfo "java.lang.ArithmeticException" ["java.lang.RuntimeException"],
   classInfo "java.lang.SecurityException" ["java.lang.RuntimeException"],
   classInfo "java.lang.InterruptedException" ["java.lang.Exception"],
   classInfo "java.lang.CloneNotSupportedException" ["java.lang.Exception"],
   classInfo "java.lang.ReflectiveOperationException" ["java.lang.Exception"],
   classInfo "java.lang.ClassNotFoundException" ["java.lang.ReflectiveOperationException"],
   classInfo "java.lang.NoSuchMethodException" ["java.lang.ReflectiveOperationException"],
   classInfo "java.lang.NoSuchFieldException" ["java.lang.ReflectiveOperationException"],
   classInfo "java.lang.InstantiationException" ["java.lang.ReflectiveOperationException"],
   classInfo "java.lang.IllegalAccessException" ["java.lang.ReflectiveOperationException"],
   classInfo "java.lang.reflect.InvocationTargetException"
     ["java.lang.ReflectiveOperationException"] [("getTargetException", throwableClass)],
   classInfo "java.lang.reflect.UndeclaredThrowableException" ["java.lang.RuntimeException"],
   classInfo "java.lang.AssertionError" ["java.lang.Error"],
   classInfo "java.lang.LinkageError" ["java.lang.Error"],
   classInfo "java.lang.NoClassDefFoundError" ["java.lang.LinkageError"],
   classInfo "java.lang.ExceptionInInitializerError" ["java.lang.LinkageError"],
   classInfo "java.lang.VirtualMachineError" ["java.lang.Error"],
   classInfo "java.lang.OutOfMemoryError" ["java.lang.VirtualMachineError"],
   classInfo "java.lang.StackOverflowError" ["java.lang.VirtualMachineError"],
   classInfo "java.io.IOException" ["java.lang.Exception"],
   classInfo "java.io.FileNotFoundException" ["java.io.IOException"],
   classInfo "java.io.EOFException" ["java.io.IOException"],
   classInfo "java.io.InterruptedIOException" ["java.io.IOException"],
   classInfo "java.io.UnsupportedEncodingException" ["java.io.IOException"],
   classInfo "java.io.UncheckedIOException" ["java.lang.RuntimeException"] [("getCause",
     "java.io.IOException")],
   classInfo "java.net.MalformedURLException" ["java.io.IOException"],
   classInfo "java.net.SocketException" ["java.io.IOException"],
   classInfo "java.net.UnknownHostException" ["java.io.IOException"],
   classInfo "java.net.SocketTimeoutException" ["java.io.InterruptedIOException"],
   classInfo "java.net.URISyntaxException" ["java.lang.Exception"],
   classInfo "java.nio.file.FileSystemException" ["java.io.IOException"],
   classInfo "java.nio.file.NoSuchFileException" ["java.nio.file.FileSystemException"],
   classInfo "java.util.NoSuchElementException" ["java.lang.RuntimeException"],
   classInfo "java.util.ConcurrentModificationException" ["java.lang.RuntimeException"],
   classInfo "java.util.concurrent.ExecutionException" ["java.lang.Exception"],
   classInfo "java.util.concurrent.TimeoutException" ["java.lang.Exception"],
   classInfo "java.util.concurrent.CancellationException" ["java.lang.IllegalStateException"],
   classInfo "java.util.concurrent.CompletionException" ["java.lang.RuntimeException"],
   classInfo "java.util.concurrent.RejectedExecutionException" ["java.lang.RuntimeException"],
   classInfo "java.sql.SQLException" ["java.lang.Exception"],
   interfaceInfo loggingApi [] apiMethods,
   classInfo "com.google.common.flogger.LoggingApi.NoOp" [objectClass, loggingApi],
   classInfo "com.google.common.flogger.AbstractLogger" [objectClass],
   classInfo "com.google.common.flogger.FluentLogger" ["com.google.common.flogger.AbstractLogger"]
     (loggerMethods "com.google.common.flogger.FluentLogger.Api"
     "com.google.common.flogger.FluentLogger"),
   interfaceInfo "com.google.common.flogger.FluentLogger.Api" [loggingApi],
   classInfo "com.google.common.flogger.GoogleLogger" ["com.google.common.flogger.AbstractLogger"]
     (loggerMethods "com.google.common.flogger.GoogleLogger.Api"
     "com.google.common.flogger.GoogleLogger"),
   interfaceInfo "com.google.common.flogger.GoogleLogger.Api" [loggingApi]]

/-- The hierarchy of the classes known from the start (`with_builtins`). -/
def builtin : Hierarchy := builtinClasses.foldl declare {}

end CauseLint.Hierarchy
